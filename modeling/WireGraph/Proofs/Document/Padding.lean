import Mathlib.Logic.Relation
import WireGraph.Proofs.Document.Record

/-!
# Records with more than their fields

A value that is read as a record may hold entries that the record does not declare. Main statement:
for every kind of record, what is written passes the check and comes back; adding undeclared entries
to the records inside a value, at any depth, changes neither the record that is read nor one of the
issues; and a record that was read, from whatever value, is written in one way only and read back
from that.
-/

namespace WireGraph.Document
open Relation

/-! ## What is declared -/

-- What is read in a place: a value that is taken as it stands, a list, a record, or a deletion, whose
-- fields depend on its kind.
inductive Form where
  | plain
  | list (item : Form)
  | record (shape : Shape)
  | deletion
deriving DecidableEq, Repr

abbrev Fields := List (String × Form)

def Shape.fields : Shape → Fields
  | .newComponent =>
    [("name",.plain),("factory_pid",.plain),("role",.plain),("driver_ref",.plain),("pid",.plain)]
  | .component =>
    [("id",.plain),("pid",.plain),("factory_pid",.plain),("name",.plain),("role",.plain),
      ("driver_ref",.plain)]
  | .wire => [("id",.plain),("producer",.plain),("consumer",.plain),("is_new",.plain)]
  | .deletedWire => [("kind",.plain),("producer",.plain),("consumer",.plain)]
  | .deletedInstance => [("kind",.plain),("pid",.plain)]
  | .topology => [("components",.list (.record .component)),("wires",.list (.record .wire))]
  | .transaction => [("topology",.record .topology),("deletions",.list .deletion)]
  | .registration =>
    [("pid",.plain),("factory_pid",.plain),("name",.plain),("role",.plain),("driver_ref",.plain)]
  | .snapshot =>
    [("graph",.record .topology),("components",.list (.record .registration)),
      ("producer_factories",.list .plain),("consumer_factories",.list .plain),
      ("drivers",.list .plain)]
  | .settings => [("driver_factories",.list .plain),("log_level",.plain)]

-- A deletion of no known kind declares nothing but its kind.
def kindFields (entries : Entries) : Fields :=
  match field? "kind" entries with
  | some (.scalar (.text kind)) =>
    if kind = wireKind then Shape.deletedWire.fields
    else if kind = instanceKind then Shape.deletedInstance.fields
    else [("kind",.plain)]
  | _ => [("kind",.plain)]

-- The fields that are declared for a mapping with these entries, where a record is read.
def Form.declares? : Form → Entries → Option Fields
  | .record shape, _ => some shape.fields
  | .deletion, entries => some (kindFields entries)
  | .plain, _ => none
  | .list _, _ => none

-- One undeclared entry more, in a record that stands at the top of a value or inside it.
inductive Pads : Form → Value → Value → Prop where
  | added {form : Form} {fields : Fields} (before after : Entries) (key : Scalar) (value : Value)
      (reads : form.declares? (before ++ after) = some fields)
      (undeclared : ∀ name, key = .text name → fields.lookup name = none) :
      Pads form (.mapping (before ++ after)) (.mapping (before ++ (key,value) :: after))
  | field {form inner : Form} {fields : Fields} {v w : Value} (before after : Entries) (name : String)
      (reads : form.declares? (before ++ (.text name,v) :: after) = some fields)
      (declared : fields.lookup name = some inner) (step : Pads inner v w) :
      Pads form (.mapping (before ++ (.text name,v) :: after))
        (.mapping (before ++ (.text name,w) :: after))
  | item {form : Form} {v w : Value} (before after : List Value) (step : Pads form v w) :
      Pads (.list form) (.list (before ++ v :: after)) (.list (before ++ w :: after))

/-! ## What is heeded -/

variable {α β : Type} {form : Form} {fields : Fields} {v w : Value} {es fs : Entries}

-- What stands in a field is the same, or the same but for one entry more inside it.
def Alike (form : Form) (a b : Option Value) : Prop :=
  a = b ∨ ∃ v w, a = some v ∧ b = some w ∧ Pads form v w

def Agree (fields : Fields) (es fs : Entries) : Prop :=
  ∀ name form, fields.lookup name = some form → Alike form (field? name es) (field? name fs)

def Respects (form : Form) (check : Value → Check α) : Prop :=
  ∀ v w, Pads form v w → check v = check w

def Heeds (fields : Fields) (check : Entries → Check α) : Prop :=
  ∀ es fs, Agree fields es fs → check es = check fs

theorem field?_append (name : String) (before after : Entries) :
    field? name (before ++ after) = (field? name before).or (field? name after) := by
  induction before with
  | nil => rfl
  | cons e rest ih =>
    obtain ⟨key,value⟩ := e
    cases key with
    | text key =>
      rw [List.cons_append,field?_cons_text,field?_cons_text]
      split
      · rfl
      · exact ih
    | _ => exact ih

theorem agree_added {before after : Entries} {key : Scalar} {value : Value}
    (undeclared : ∀ name, key = .text name → fields.lookup name = none) :
    Agree fields (before ++ after) (before ++ (key,value) :: after) := by
  intro name form declared
  refine .inl ?_
  rw [field?_append,field?_append]
  cases key with
  | text key =>
    have other : key ≠ name := by
      rintro rfl
      rw [undeclared key rfl] at declared
      cases declared
    rw [field?_cons_text,if_neg other]
  | _ => rfl

theorem agree_field {inner : Form} {before after : Entries} {name : String}
    (declared : fields.lookup name = some inner) (step : Pads inner v w) :
    Agree fields (before ++ (.text name,v) :: after) (before ++ (.text name,w) :: after) := by
  intro asked form reads
  rw [field?_append,field?_append,field?_cons_text,field?_cons_text]
  cases field? asked before with
  | some value => exact .inl rfl
  | none =>
    by_cases same : name = asked
    · subst same
      rw [declared] at reads
      cases reads
      rw [if_pos rfl,if_pos rfl]
      exact .inr ⟨v,w,rfl,rfl,step⟩
    · rw [if_neg same,if_neg same]
      exact .inl rfl

-- Where a record is read, the declared fields agree; in a list, one item changes.
theorem Pads.parts (pads : Pads form v w) :
    (∃ es fs fields, v = .mapping es ∧ w = .mapping fs ∧ form.declares? es = some fields ∧
        Agree fields es fs) ∨
      ∃ item before after a b, form = .list item ∧ v = .list (before ++ a :: after) ∧
        w = .list (before ++ b :: after) ∧ Pads item a b := by
  cases pads with
  | added before after key value reads undeclared =>
    exact .inl ⟨_,_,_,rfl,rfl,reads,agree_added undeclared⟩
  | field before after name reads declared step =>
    exact .inl ⟨_,_,_,rfl,rfl,reads,agree_field declared step⟩
  | item before after step => exact .inr ⟨_,before,after,_,_,rfl,rfl,rfl,step⟩

-- Nothing is added to a value that is taken as it stands.
theorem Pads.not_plain (pads : Pads .plain v w) : False := by
  rcases pads.parts with ⟨_,_,_,_,_,reads,_⟩ | ⟨_,_,_,_,_,same,_⟩
  · cases reads
  · cases same

theorem respects_plain (check : Value → Check α) : Respects .plain check :=
  fun _ _ pads => pads.not_plain.elim

theorem Alike.plain {a b : Option Value} (alike : Alike .plain a b) : a = b := by
  rcases alike with same | ⟨v,w,_,_,pads⟩
  · exact same
  · exact pads.not_plain.elim

theorem Respects.items {item : Value → Check α} (respects : Respects form item) (pads : Pads form v w)
    (before after : List Value) (index : Nat) :
    itemsFrom item index (before ++ v :: after) = itemsFrom item index (before ++ w :: after) := by
  induction before generalizing index with
  | nil => rw [List.nil_append,List.nil_append,itemsFrom,itemsFrom,respects _ _ pads]
  | cons a rest ih => rw [List.cons_append,List.cons_append,itemsFrom,itemsFrom,ih]

theorem Respects.list {item : Value → Check α} (respects : Respects form item) :
    Respects (.list form) (listOf item) := by
  intro v w pads
  rcases pads.parts with ⟨_,_,_,_,_,reads,_⟩ | ⟨_,before,after,a,b,same,rfl,rfl,inner⟩
  · cases reads
  · cases same
    exact respects.items inner before after 0

theorem Heeds.record {shape : Shape} {check : Entries → Check α} (heeds : Heeds shape.fields check) :
    Respects (.record shape) (recordOf shape check) := by
  intro v w pads
  rcases pads.parts with ⟨es,fs,_,rfl,rfl,reads,agree⟩ | ⟨_,_,_,_,_,same,_⟩
  · cases reads
    exact heeds es fs agree
  · cases same

theorem heeds_required {name : String} {check : Value → Check α}
    (declared : fields.lookup name = some form) (respects : Respects form check) :
    Heeds fields (required name check) := by
  intro es fs agree
  unfold required
  rcases agree name form declared with same | ⟨v,w,first,second,pads⟩
  · rw [same]
  · simp only [first,second,respects v w pads]

theorem heeds_optional {name : String} {default : α} {check : Value → Check α}
    (declared : fields.lookup name = some form) (respects : Respects form check) :
    Heeds fields (optional name default check) := by
  intro es fs agree
  unfold optional
  rcases agree name form declared with same | ⟨v,w,first,second,pads⟩
  · rw [same]
  · simp only [first,second,respects v w pads]

theorem Heeds.map {check : Entries → Check α} (heeds : Heeds fields check) (f : α → β) :
    Heeds fields fun e => f <$> check e := by
  intro es fs agree
  simp only [heeds es fs agree]

theorem Heeds.seq {apply : Entries → Check (α → β)} {check : Entries → Check α}
    (first : Heeds fields apply) (second : Heeds fields check) :
    Heeds fields fun e => apply e <*> check e := by
  intro es fs agree
  simp only [first es fs agree,second es fs agree]

-- A field that is taken as it stands.
theorem heeds_plain {name : String} {check : Value → Check α}
    (declared : fields.lookup name = some .plain) : Heeds fields (required name check) :=
  heeds_required declared (respects_plain check)

theorem heeds_default {name : String} {default : α} {check : Value → Check α}
    (declared : fields.lookup name = some .plain) : Heeds fields (optional name default check) :=
  heeds_optional declared (respects_plain check)

/-! ## Records -/

theorem newComponent_heeds : Heeds Shape.newComponent.fields NewComponent.check :=
  (heeds_plain (by rfl)).map _ |>.seq (heeds_plain (by rfl)) |>.seq (heeds_plain (by rfl))
    |>.seq (heeds_default (by rfl)) |>.seq (heeds_default (by rfl))

theorem component_heeds : Heeds Shape.component.fields Component.check :=
  (heeds_plain (by rfl)).map _ |>.seq (heeds_default (by rfl)) |>.seq (heeds_plain (by rfl))
    |>.seq (heeds_plain (by rfl)) |>.seq (heeds_plain (by rfl)) |>.seq (heeds_default (by rfl))

theorem wire_heeds : Heeds Shape.wire.fields Wire.check :=
  (heeds_plain (by rfl)).map _ |>.seq (heeds_plain (by rfl)) |>.seq (heeds_plain (by rfl))
    |>.seq (heeds_default (by rfl))

theorem deletedWire_heeds : Heeds Shape.deletedWire.fields DeletedWire.check :=
  (heeds_default (by rfl)).map _ |>.seq (heeds_plain (by rfl)) |>.seq (heeds_plain (by rfl))

theorem deletedInstance_heeds : Heeds Shape.deletedInstance.fields DeletedInstance.check :=
  (heeds_default (by rfl)).map _ |>.seq (heeds_plain (by rfl))

theorem registration_heeds : Heeds Shape.registration.fields Registration.check :=
  (heeds_plain (by rfl)).map _ |>.seq (heeds_plain (by rfl)) |>.seq (heeds_default (by rfl))
    |>.seq (heeds_plain (by rfl)) |>.seq (heeds_default (by rfl))

theorem kind_declared (es : Entries) : (kindFields es).lookup "kind" = some .plain := by
  unfold kindFields
  split
  · split
    · rfl
    · split
      · rfl
      · rfl
  · rfl

-- The kind is declared in every case, so it is the same, and with it what else is declared.
theorem ofKind_heeds {kind : String} (found : field? "kind" es = some (.text kind))
    (agree : Agree (kindFields es) es fs) : Deletion.ofKind kind es = Deletion.ofKind kind fs := by
  unfold kindFields at agree
  rw [found] at agree
  dsimp only at agree
  unfold Deletion.ofKind
  by_cases wire : kind = wireKind
  · rw [if_pos wire] at agree ⊢
    rw [if_pos wire,deletedWire_heeds es fs agree]
  rw [if_neg wire] at agree ⊢
  rw [if_neg wire]
  by_cases component : kind = instanceKind
  · rw [if_pos component] at agree ⊢
    rw [if_pos component,deletedInstance_heeds es fs agree]
  rw [if_neg component,if_neg component]

theorem deletion_respects : Respects .deletion Deletion.check := by
  intro v w pads
  rcases pads.parts with ⟨es,fs,_,rfl,rfl,reads,agree⟩ | ⟨_,_,_,_,_,same,_⟩
  · cases reads
    have kind := (agree "kind" .plain (kind_declared es)).plain
    simp only [Deletion.check,Value.opened_mapping,← kind]
    split
    · rfl
    · rename_i found
      exact ofKind_heeds found agree
    · rfl
  · cases same

theorem topology_heeds : Heeds Shape.topology.fields Topology.check :=
  (heeds_optional (by rfl) component_heeds.record.list).map _
    |>.seq (heeds_optional (by rfl) wire_heeds.record.list)

theorem transaction_heeds : Heeds Shape.transaction.fields Transaction.check :=
  (heeds_required (by rfl) topology_heeds.record).map _
    |>.seq (heeds_optional (by rfl) deletion_respects.list)

theorem snapshot_heeds : Heeds Shape.snapshot.fields Snapshot.check :=
  (heeds_optional (by rfl) topology_heeds.record).map _
    |>.seq (heeds_optional (by rfl) registration_heeds.record.list)
    |>.seq (heeds_optional (by rfl) (respects_plain text).list)
    |>.seq (heeds_optional (by rfl) (respects_plain text).list)
    |>.seq (heeds_optional (by rfl) (respects_plain text).list)

theorem settings_heeds : Heeds Shape.settings.fields Settings.check :=
  (heeds_optional (by rfl) (respects_plain text).list).map _ |>.seq (heeds_default (by rfl))

-- The records of a shape.
def Shape.Content : Shape → Type
  | .newComponent => NewComponent
  | .component => Component
  | .wire => Wire
  | .deletedWire => DeletedWire
  | .deletedInstance => DeletedInstance
  | .topology => Topology
  | .transaction => Transaction
  | .registration => Registration
  | .snapshot => Snapshot
  | .settings => Settings

instance : (shape : Shape) → Record shape.Content
  | .newComponent => inferInstanceAs (Record NewComponent)
  | .component => inferInstanceAs (Record Component)
  | .wire => inferInstanceAs (Record Wire)
  | .deletedWire => inferInstanceAs (Record DeletedWire)
  | .deletedInstance => inferInstanceAs (Record DeletedInstance)
  | .topology => inferInstanceAs (Record Topology)
  | .transaction => inferInstanceAs (Record Transaction)
  | .registration => inferInstanceAs (Record Registration)
  | .snapshot => inferInstanceAs (Record Snapshot)
  | .settings => inferInstanceAs (Record Settings)

theorem normalize_content (shape : Shape) (v : Value) :
    normalize shape v = toValue <$> (Record.check v : Check shape.Content) := by
  cases shape <;> rfl

-- Every declared field is written, and nothing else.
theorem toValue_fields {shape : Shape} (a : shape.Content) :
    ∃ fields, toValue a = .record fields ∧ fields.map (·.1) = shape.fields.map (·.1) := by
  cases shape <;> exact ⟨_,rfl,rfl⟩

theorem check_content {shape : Shape} (a : shape.Content) : Record.check (toValue a) = Check.ok a := by
  cases shape with
  | newComponent => exact NewComponent.check_toValue a
  | component => exact Component.check_toValue a
  | wire => exact Wire.check_toValue a
  | deletedWire => exact DeletedWire.check_toValue a
  | deletedInstance => exact DeletedInstance.check_toValue a
  | topology => exact Topology.check_toValue a
  | transaction => exact Transaction.check_toValue a
  | registration => exact Registration.check_toValue a
  | snapshot => exact Snapshot.check_toValue a
  | settings => exact Settings.check_toValue a

theorem content_respects (shape : Shape) :
    Respects (.record shape) (Record.check : Value → Check shape.Content) := by
  cases shape with
  | newComponent => exact newComponent_heeds.record
  | component => exact component_heeds.record
  | wire => exact wire_heeds.record
  | deletedWire => exact deletedWire_heeds.record
  | deletedInstance => exact deletedInstance_heeds.record
  | topology => exact topology_heeds.record
  | transaction => exact transaction_heeds.record
  | registration => exact registration_heeds.record
  | snapshot => exact snapshot_heeds.record
  | settings => exact settings_heeds.record

theorem Respects.padded {check : Value → Check α} (respects : Respects form check)
    (pads : ReflTransGen (Pads form) v w) : check v = check w := by
  induction pads with
  | refl => rfl
  | tail _ last ih => exact ih.trans (respects _ _ last)

theorem records_normalize (shape : Shape) :
    (∀ a : shape.Content, Record.check (toValue a) = Check.ok a ∧
      ∃ fields, toValue a = .record fields ∧ fields.map (·.1) = shape.fields.map (·.1)) ∧
    (∀ v w, ReflTransGen (Pads (.record shape)) v w →
      (Record.check v : Check shape.Content) = Record.check w ∧ normalize shape v = normalize shape w) ∧
    ∀ v (a : shape.Content), Record.check v = Check.ok a →
      normalize shape v = Check.ok (toValue a) ∧
        normalize shape (toValue a) = Check.ok (toValue a) := by
  refine ⟨fun a => ⟨check_content a,toValue_fields a⟩,fun v w pads => ?_,fun v a passes => ?_⟩
  · have same := (content_respects shape).padded pads
    rw [normalize_content,normalize_content,same]
    exact ⟨rfl,rfl⟩
  · rw [normalize_content,normalize_content,passes,check_content a]
    exact ⟨rfl,rfl⟩

-- A transaction with one wire and one deletion, and whatever else stands beside them.
def parcel (wire deletion : Value) (more : Entries) : Value :=
  .mapping ((.text "topology",.mapping [(.text "wires",.list [wire])]) ::
    (.text "deletions",.list [deletion]) :: more)

-- A wire whose flag is a number, bare and with a field that wires do not have.
def numbered (fresh : Int) : Value :=
  .record [("id",.text "w"),("producer",.text "a"),("consumer",.text "b"),
    ("is_new",.scalar (.int fresh))]

def remarked (fresh : Int) : Value :=
  .record [("id",.text "w"),("remark",.texts ["x"]),("producer",.text "a"),("consumer",.text "b"),
    ("is_new",.scalar (.int fresh))]

-- The removal of an instance, bare and with a field that only the removal of a wire has.
def struck : Value := .record [("kind",.text "instance"),("pid",.text "p")]

def confused : Value := .record [("kind",.text "instance"),("pid",.text "p"),("producer",.null)]

theorem parcel_pads (fresh : Int) : ReflTransGen (Pads (.record .transaction))
    (parcel (numbered fresh) struck []) (parcel (remarked fresh) confused [(.int 7,.null)]) := by
  have wire : Pads (.record .wire) (numbered fresh) (remarked fresh) := by
    refine .added [(.text "id",.text "w")] _ _ _ rfl ?_
    intro name same
    cases same
    rfl
  have deletion : Pads .deletion struck confused := by
    refine .added [(.text "kind",.text "instance"),(.text "pid",.text "p")] [] _ _ rfl ?_
    intro name same
    cases same
    rfl
  have first : Pads (.record .transaction) (parcel (numbered fresh) struck [])
      (parcel (remarked fresh) struck []) :=
    .field [] _ "topology" rfl rfl (.field [] [] "wires" rfl rfl (.item [] [] wire))
  have second : Pads (.record .transaction) (parcel (remarked fresh) struck [])
      (parcel (remarked fresh) confused []) :=
    .field [_] [] "deletions" rfl rfl (.item [] [] deletion)
  have third : Pads (.record .transaction) (parcel (remarked fresh) confused [])
      (parcel (remarked fresh) confused [(.int 7,.null)]) := by
    refine .added [_,_] [] _ _ rfl ?_
    intro name same
    cases same
  exact .tail (.tail (.single first) second) third

-- A zero is read as a flag and written as one; a seven is refused at its place, whatever is beside it.
theorem parcel_normalizes :
    let tx : Transaction := ⟨⟨[],[⟨"w","a","b",false⟩]⟩,[.component ⟨"p"⟩]⟩
    let padded := fun fresh => parcel (remarked fresh) confused [(.int 7,.null)]
    (Record.check (padded 0) : Check Transaction) = Check.ok tx ∧
      normalize .transaction (padded 0) = Check.ok (toValue tx) ∧
      normalize .transaction (toValue tx) = Check.ok (toValue tx) ∧
      (Record.check (toValue tx) : Check Transaction) = Check.ok tx ∧
      (Record.check (padded 7) : Check Transaction) =
        Except.error [⟨[.field "topology",.field "wires",.item 0,.field "is_new"],.unreadableFlag⟩] := by
  intro tx padded
  obtain ⟨returns,pads,fixed⟩ := records_normalize .transaction
  have read : (Record.check (parcel (numbered 0) struck []) : Check Transaction) = Check.ok tx := rfl
  have passes : (Record.check (padded 0) : Check Transaction) = Check.ok tx :=
    (pads _ _ (parcel_pads 0)).1.symm.trans read
  obtain ⟨normal,again⟩ := fixed _ tx passes
  refine ⟨passes,normal,again,(returns tx).1,(pads _ _ (parcel_pads 7)).1.symm.trans ?_⟩
  rfl

end WireGraph.Document
