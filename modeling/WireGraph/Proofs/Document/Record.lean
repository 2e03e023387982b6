import WireGraph.Document.Record

/-!
# Records pass their own checks

A record that is written as a value and checked again. Main statement: for every kind of record the
check of the value gives back the record.
-/

namespace WireGraph.Document
variable {α β : Type}

/-! ## Checks that pass -/

@[simp] theorem Check.map_ok (f : α → β) (a : α) : f <$> Check.ok a = Check.ok (f a) := rfl

@[simp] theorem Check.seq_ok (f : α → β) (a : α) : Check.ok f <*> Check.ok a = Check.ok (f a) := rfl

@[simp] theorem Check.under_ok (hop : Hop) (a : α) : (Check.ok a).under hop = Check.ok a := rfl

@[simp] theorem text_text (s : String) : text (.text s) = Check.ok s := rfl

@[simp] theorem flag_flag (b : Bool) : flag (.flag b) = Check.ok b := rfl

@[simp] theorem textOrNull_optional (s : Option String) :
    textOrNull (.optional s) = Check.ok s := by
  cases s <;> rfl

@[simp] theorem role_roleValue (r : Role) : role (roleValue r) = Check.ok r := by
  change roleOfWord r.word = _
  rw [roleOfWord,Role.ofWord?_word]

@[simp] theorem literal_text (word : String) : literal word (.text word) = Check.ok () :=
  if_pos rfl

theorem itemsFrom_map {item : Value → Check α} {write : α → Value}
    (passes : ∀ a, item (write a) = Check.ok a) (index : Nat) (items : List α) :
    itemsFrom item index (items.map write) = Check.ok items := by
  induction items generalizing index with
  | nil => rfl
  | cons a rest ih => simp [itemsFrom,passes,ih]

theorem listOf_map {item : Value → Check α} {write : α → Value}
    (passes : ∀ a, item (write a) = Check.ok a) (items : List α) :
    listOf item (.list (items.map write)) = Check.ok items := itemsFrom_map passes 0 items

theorem listOf_texts (items : List String) : listOf text (Value.texts items) = Check.ok items :=
  listOf_map text_text items

/-! ## Records -/

@[simp] theorem recordOf_mapping (shape : Shape) (fields : Entries → Check α) (entries : Entries) :
    recordOf shape fields (.mapping entries) = fields entries := rfl

theorem NewComponent.check_toValue (c : NewComponent) :
    recordOf .newComponent NewComponent.check (NewComponent.toValue c) = Check.ok c := by
  simp [NewComponent.check,NewComponent.toValue,Value.record,required,optional,field?_cons_text]

theorem Component.check_toValue (c : Component) :
    recordOf .component Component.check (Component.toValue c) = Check.ok c := by
  simp [Component.check,Component.toValue,Value.record,required,optional,field?_cons_text]

theorem Wire.check_toValue (w : Wire) :
    recordOf .wire Wire.check (Wire.toValue w) = Check.ok w := by
  simp [Wire.check,Wire.toValue,Value.record,required,optional,field?_cons_text]

theorem DeletedWire.check_toValue (d : DeletedWire) :
    recordOf .deletedWire DeletedWire.check (DeletedWire.toValue d) = Check.ok d := by
  simp [DeletedWire.check,DeletedWire.toValue,Value.record,required,optional,
    field?_cons_text]

theorem DeletedInstance.check_toValue (d : DeletedInstance) :
    recordOf .deletedInstance DeletedInstance.check (DeletedInstance.toValue d) = Check.ok d := by
  simp [DeletedInstance.check,DeletedInstance.toValue,Value.record,required,optional,
    field?_cons_text]

theorem Registration.check_toValue (r : Registration) :
    recordOf .registration Registration.check (Registration.toValue r) = Check.ok r := by
  simp [Registration.check,Registration.toValue,Value.record,required,optional,
    field?_cons_text]

-- The kind word that is written decides which deletion is read.
theorem Deletion.check_toValue (d : Deletion) :
    Deletion.check (Deletion.toValue d) = Check.ok d := by
  cases d with
  | wire d =>
    have inner : DeletedWire.check _ = Check.ok d := DeletedWire.check_toValue d
    change Deletion.ofKind wireKind _ = _
    rw [Deletion.ofKind,if_pos rfl,inner]
    rfl
  | component d =>
    have inner : DeletedInstance.check _ = Check.ok d := DeletedInstance.check_toValue d
    change Deletion.ofKind instanceKind _ = _
    rw [Deletion.ofKind,if_neg (by decide),if_pos rfl,inner]
    rfl

theorem Topology.check_toValue (t : Topology) :
    recordOf .topology Topology.check (Topology.toValue t) = Check.ok t := by
  simp [Topology.check,Topology.toValue,Value.record,optional,field?_cons_text,
    listOf_map Component.check_toValue,listOf_map Wire.check_toValue]

theorem Transaction.check_toValue (t : Transaction) :
    recordOf .transaction Transaction.check (Transaction.toValue t) = Check.ok t := by
  have topology := Topology.check_toValue t.topology
  have deletions := listOf_map Deletion.check_toValue t.deletions
  simp [Transaction.check,Transaction.toValue,Value.record,required,optional,
    field?_cons_text,topology,deletions]

theorem Snapshot.check_toValue (s : Snapshot) :
    recordOf .snapshot Snapshot.check (Snapshot.toValue s) = Check.ok s := by
  have graph := Topology.check_toValue s.graph
  have components := listOf_map Registration.check_toValue s.components
  simp [Snapshot.check,Snapshot.toValue,Value.record,optional,field?_cons_text,graph,
    components,listOf_texts]

theorem Settings.check_toValue (s : Settings) :
    recordOf .settings Settings.check (Settings.toValue s) = Check.ok s := by
  simp [Settings.check,Settings.toValue,Value.record,optional,field?_cons_text,listOf_texts]

end WireGraph.Document
