import Mathlib.Data.List.Forall2
import WireGraph.Proofs.Yaml.Block
import WireGraph.Yaml.Value

/-!
# Values of stored nodes

The node of a stored value, laid out as a web and put together again. Main statement: its value is
the value that it is the node of.
-/

namespace WireGraph.Yaml

open Document (Scalar Value Entries putAll putEntry sameKey)

/-! ## Entries under distinct keys -/

theorem putEntry_new {key : Scalar} (value : Value) {table : Entries}
    (new : ∀ e ∈ table, sameKey e.1 key = false) :
    putEntry key value table = table ++ [(key,value)] := by
  induction table with
  | nil => rfl
  | cons e rest ih =>
    have other := new e (by simp)
    obtain ⟨k,v⟩ := e
    rw [putEntry,other,if_neg Bool.false_ne_true,ih fun e member => new e (.tail _ member)]
    rfl

-- Two texts that are not the same are two keys.
theorem texts_apart {a b : Scalar} (first : ∃ s, a = .text s) (second : ∃ s, b = .text s)
    (other : a ≠ b) : sameKey a b = false := by
  obtain ⟨s,rfl⟩ := first
  obtain ⟨t,rfl⟩ := second
  rw [Document.sameKey_text,beq_eq_false_iff_ne]
  rintro rfl
  exact other rfl

theorem putAll_distinct {entries : Entries} (named : Named entries)
    (distinct : (entries.map (·.1)).Nodup) : putAll entries = entries := by
  have texts : ∀ e ∈ entries, ∃ s, e.1 = .text s :=
    fun e member => (named e member).imp fun _ => And.left
  have onto : ∀ done rest : Entries, done ++ rest = entries →
      rest.foldl (fun table e => putEntry e.1 e.2 table) done = entries := by
    intro done rest split
    induction rest generalizing done with
    | nil => rwa [List.append_nil] at split
    | cons e rest ih =>
      have new : ∀ d ∈ done, sameKey d.1 e.1 = false := by
        intro d member
        rw [← split,List.map_append,List.map_cons,List.nodup_append] at distinct
        exact texts_apart (texts d (by simp [← split,member])) (texts e (by simp [← split]))
          (distinct.2.2 d.1 (List.mem_map_of_mem member) e.1 (.head _))
      rw [List.foldl_cons,putEntry_new e.2 new]
      exact ih _ (by rw [← split,List.append_assoc]; rfl)
  exact onto [] entries rfl

/-! ## Layout -/

-- The cell of a scalar, as the node of the scalar is laid out.
def cellOf : Scalar → Cell
  | .null => .scalar .null "null"
  | .flag b => .scalar .flag (flagWord b)
  | .text s => .scalar .text s
  | _ => .scalar .null ""

-- Whether the cell of a number stands for a value; the cells of its parts come before it.
def Holds (w : Web) : (depth : Nat) → (number : Nat) → Value → Prop
  | _, i, .scalar s => isStored s = true ∧ w.cells[i]? = some (cellOf s)
  | depth + 1, i, .list items => ∃ numbers, w.cells[i]? = some (.sequence .list numbers) ∧
      List.Forall₂ (fun n item => n < i ∧ Holds w depth n item) numbers items
  | depth + 1, i, .mapping entries => ∃ numbers, w.cells[i]? = some (.mapping .mapping numbers) ∧
      Named entries ∧ (entries.map (·.1)).Nodup ∧ List.Forall₂ (fun n e =>
        n.2 < i ∧ w.cells[n.1]? = some (cellOf e.1) ∧ Holds w depth n.2 e.2) numbers entries
  | _, _, _ => False

-- Every cell of `w` is in `w'` under the same number.
def Keeps (w w' : Web) : Prop :=
  ∀ (i : Nat) (cell : Cell), w.cells[i]? = some cell → w'.cells[i]? = some cell

theorem Keeps.refl (w : Web) : Keeps w w := fun _ _ here => here

theorem Keeps.trans {first second third : Web} (here : Keeps first second)
    (onward : Keeps second third) : Keeps first third :=
  fun i cell present => onward i cell (here i cell present)

theorem keeps_push (w : Web) (cell : Cell) : Keeps w (w.push cell) := by
  intro i other here
  obtain ⟨inside,_⟩ := Array.getElem?_eq_some_iff.1 here
  rw [Web.push,Array.getElem?_push_lt inside]
  rwa [Array.getElem?_eq_getElem inside] at here

theorem push_cell (w : Web) (cell : Cell) : (w.push cell).cells[w.size]? = some cell := by
  simp [Web.push,Web.size]

theorem Holds.keep {w w' : Web} (keeps : Keeps w w') {depth i : Nat} {v : Value}
    (holds : Holds w depth i v) : Holds w' depth i v := by
  induction depth generalizing i v with
  | zero =>
    cases v with
    | scalar s => exact ⟨holds.1,keeps _ _ holds.2⟩
    | _ => exact holds.elim
  | succ depth ih =>
    cases v with
    | scalar s => exact ⟨holds.1,keeps _ _ holds.2⟩
    | list items =>
      obtain ⟨numbers,cell,parts⟩ := holds
      exact ⟨numbers,keeps _ _ cell,parts.imp fun _ _ part => ⟨part.1,ih part.2⟩⟩
    | mapping entries =>
      obtain ⟨numbers,cell,named,distinct,parts⟩ := holds
      exact ⟨numbers,keeps _ _ cell,named,distinct,
        parts.imp fun _ _ part => ⟨part.1,keeps _ _ part.2.1,ih part.2.2⟩⟩
    | _ => exact holds.elim

theorem Holds.inside {w : Web} {depth i : Nat} {v : Value} (holds : Holds w depth i v) :
    i < w.size := by
  have present : ∃ cell, w.cells[i]? = some cell := by
    cases depth with
    | zero =>
      cases v with
      | scalar s => exact ⟨_,holds.2⟩
      | _ => exact holds.elim
    | succ depth =>
      cases v with
      | scalar s => exact ⟨_,holds.2⟩
      | list items => exact ⟨_,holds.choose_spec.1⟩
      | mapping entries => exact ⟨_,holds.choose_spec.1⟩
      | _ => exact holds.elim
  obtain ⟨cell,here⟩ := present
  exact (Array.getElem?_eq_some_iff.1 here).1

-- The web of a node that was laid out: what was there before is kept, and the value is held.
def Lays (w : Web) (laid : Nat × Web) (depth : Nat) (v : Value) : Prop :=
  Keeps w laid.2 ∧ Holds laid.2 depth laid.1 v

theorem lay_scalar (w : Web) (s : Scalar) : (scalarOf s).lay w = (w.size,w.push (cellOf s)) := by
  cases s <;> rfl

theorem layItems_holds {node : Value → Node} {depth : Nat} {items : List Value}
    (lays : ∀ item ∈ items, ∀ w, Lays w ((node item).lay w) depth item) (w : Web) :
    ∃ laid, layItems w (items.map node) = laid ∧ Keeps w laid.2 ∧
      List.Forall₂ (Holds laid.2 depth) laid.1 items := by
  induction items generalizing w with
  | nil => exact ⟨_,rfl,.refl w,.nil⟩
  | cons item rest ih =>
    obtain ⟨keeps,holds⟩ := lays item (by simp) w
    obtain ⟨laid,same,others,rest_holds⟩ := ih (fun item member => lays item (.tail _ member))
      ((node item).lay w).2
    simp only [List.map_cons,layItems,same]
    exact ⟨_,rfl,keeps.trans others,.cons (holds.keep others) rest_holds⟩

-- The number of a field stands for its key and its value.
def HoldsField (w : Web) (depth : Nat) (n : Nat × Nat) (e : Scalar × Value) : Prop :=
  w.cells[n.1]? = some (cellOf e.1) ∧ Holds w depth n.2 e.2

theorem layEntries_holds {node : Value → Node} {depth : Nat} {entries : Entries}
    (lays : ∀ e ∈ entries, ∀ w, Lays w ((node e.2).lay w) depth e.2) (w : Web) :
    ∃ laid, layEntries w (entries.map fun e => (scalarOf e.1,node e.2)) = laid ∧
      Keeps w laid.2 ∧ List.Forall₂ (HoldsField laid.2 depth) laid.1 entries := by
  induction entries generalizing w with
  | nil => exact ⟨_,rfl,.refl w,.nil⟩
  | cons e rest ih =>
    obtain ⟨keeps,holds⟩ := lays e (by simp) (w.push (cellOf e.1))
    obtain ⟨laid,same,others,rest_holds⟩ := ih (fun e member => lays e (.tail _ member))
      ((node e.2).lay (w.push (cellOf e.1))).2
    simp only [List.map_cons,layEntries,lay_scalar,same]
    exact ⟨_,rfl,((keeps_push w _).trans keeps).trans others,
      .cons ⟨others _ _ (keeps _ _ (push_cell w _)),holds.keep others⟩ rest_holds⟩

theorem matched {α β : Type} {R : α → β → Prop} {xs : List α} {ys : List β}
    (all : List.Forall₂ R xs ys) : ∀ x ∈ xs, ∃ y ∈ ys, R x y := by
  induction all with
  | nil => exact fun x member => nomatch member
  | cons first _ ih =>
    intro x member
    rcases List.mem_cons.1 member with rfl | member
    · exact ⟨_,.head _,first⟩
    · obtain ⟨y,member,related⟩ := ih x member
      exact ⟨y,.tail _ member,related⟩

theorem matched_each {α β : Type} {R : α → β → Prop} {P : β → Prop} {xs : List α} {ys : List β}
    (all : List.Forall₂ R xs ys) (each : ∀ y ∈ ys, P y) :
    List.Forall₂ (fun x y => P y ∧ R x y) xs ys := by
  induction all with
  | nil => exact .nil
  | cons first _ ih =>
    exact .cons ⟨each _ (.head _),first⟩ (ih fun y member => each y (.tail _ member))

theorem Stored.lays {depth : Nat} {v : Value} (stored : Stored depth v) (w : Web) :
    Lays w ((nodeOf depth v).lay w) depth v := by
  induction stored generalizing w with
  | @scalar depth s known =>
    rw [nodeOf_scalar,lay_scalar]
    refine ⟨keeps_push w _,?_⟩
    cases depth <;> exact ⟨known,push_cell w _⟩
  | @list depth items _ ih =>
    obtain ⟨laid,same,keeps,holds⟩ := layItems_holds ih w
    rw [nodeOf,Node.lay,same]
    exact ⟨keeps.trans (keeps_push _ _),_,push_cell _ _,
      holds.imp fun _ _ part => ⟨part.inside,part.keep (keeps_push _ _)⟩⟩
  | @mapping depth entries _ distinct named _ ih =>
    obtain ⟨laid,same,keeps,holds⟩ := layEntries_holds ih w
    rw [nodeOf,Node.lay,same]
    exact ⟨keeps.trans (keeps_push _ _),_,push_cell _ _,named,distinct,holds.imp fun _ _ part =>
      ⟨part.2.inside,keeps_push _ _ _ _ part.1,part.2.keep (keeps_push _ _)⟩⟩

/-! ## Parts -/

section Parts
variable {w : Web} {i : Nat}

theorem cell_of {cell : Cell} (here : w.cells[i]? = some cell) : w.cell i = cell := by
  rw [Web.cell,here,Option.getD_some]

theorem scalar_of {s : Scalar} (known : isStored s = true) (here : w.cells[i]? = some (cellOf s)) :
    w.scalar i = .ok s ∧ w.hasParts i = false := by
  rw [Web.scalar,Web.hasParts,Web.kind,cell_of here]
  cases s with
  | null => exact ⟨rfl,rfl⟩
  | flag b =>
    have word : flagValue (flagWord b) = .ok b := by cases b <;> decide
    exact ⟨congrArg (Scalar.flag <$> ·) word,rfl⟩
  | text s => exact ⟨rfl,rfl⟩
  | _ => cases known

variable {numbers : List (Nat × Nat)} {entries : Entries}

-- Fields of a mapping, whose keys are texts.
def KeyCells (w : Web) (numbers : List (Nat × Nat)) (entries : Entries) : Prop :=
  Named entries ∧ List.Forall₂ (fun n e => w.cells[n.1]? = some (cellOf e.1)) numbers entries

theorem KeyCells.text (keys : KeyCells w numbers entries) :
    ∀ n ∈ numbers, ∃ name, w.cells[n.1]? = some (.scalar .text name) := by
  intro n member
  obtain ⟨e,member,cell⟩ := matched keys.2 n member
  obtain ⟨name,key,_⟩ := keys.1 e member
  exact ⟨name,by rw [cell,key]; rfl⟩

-- A mapping without merges has the entries that are written in it.
theorem KeyCells.entriesOf (keys : KeyCells w numbers entries)
    (here : w.cells[i]? = some (.mapping .mapping numbers)) : w.entriesOf i = .ok numbers := by
  have kinds : ∀ n ∈ numbers, w.kind n.1 = .text := by
    intro n member
    obtain ⟨name,cell⟩ := keys.text n member
    rw [Web.kind,cell_of cell]
    rfl
  have merges : w.merges numbers = [] := by
    rw [Web.merges,List.map_eq_nil_iff,List.filter_eq_nil_iff]
    intro n member
    rw [kinds n member]
    decide
  have own : w.ownEntries numbers = numbers := by
    rw [Web.ownEntries,List.filter_eq_self]
    intro n member
    rw [kinds n member]
    decide
  rw [Web.entriesOf,Web.entries,cell_of here]
  simp [merges,own,pure,Except.pure]

theorem key_of {name : String} (here : w.cells[i]? = some (cellOf (.text name))) :
    w.key i = .ok (.text name) := by
  have kind : w.kind i = .text := by
    rw [Web.kind,cell_of here]
    rfl
  rw [Web.key,kind,if_neg (by decide),(scalar_of rfl here).1]

theorem map_matched {α β : Type} {f : α → β} {xs : List α} {ys : List β}
    (all : List.Forall₂ (fun x y => f x = y) xs ys) : xs.map f = ys := by
  rwa [← List.forall₂_eq_eq_eq,List.forall₂_map_left_iff]

-- What each kind of cell needs, and what is put together from that.
theorem assemble_scalar {s : Scalar} (known : isStored s = true)
    (here : w.cells[i]? = some (cellOf s)) (value : Nat → Value) :
    w.needs i = [] ∧ w.assemble value i = .scalar s := by
  obtain ⟨read,bare⟩ := scalar_of known here
  refine ⟨by rw [Web.needs,bare,if_neg Bool.false_ne_true],?_⟩
  have cell := cell_of here
  rw [Web.assemble,read,Web.kind,cell]
  cases s with
  | null => rfl
  | flag b => rfl
  | text s => rfl
  | _ => cases known

theorem parts_list {numbers : List Nat} (here : w.cells[i]? = some (.sequence .list numbers)) :
    w.hasParts i = true ∧ w.parts i = numbers.map .value := by
  have cell := cell_of here
  constructor
  · rw [Web.hasParts,Web.kind,cell]
    rfl
  · rw [Web.parts,Web.kind,cell]
    rfl

theorem assemble_list {numbers : List Nat} (here : w.cells[i]? = some (.sequence .list numbers))
    (value : Nat → Value) :
    w.needs i = numbers ∧ w.assemble value i = .list (numbers.map value) := by
  obtain ⟨hasParts,parts⟩ := parts_list here
  constructor
  · rw [Web.needs,hasParts,if_pos rfl,parts]
    simp [List.filterMap_map]
  · rw [Web.assemble,Web.kind,cell_of here]
    rfl

theorem parts_mapping (keys : KeyCells w numbers entries)
    (here : w.cells[i]? = some (.mapping .mapping numbers)) : w.hasParts i = true ∧
      w.parts i = numbers.flatMap fun n => [.key n.1,.value n.2] := by
  have cell := cell_of here
  constructor
  · rw [Web.hasParts,Web.kind,cell]
    rfl
  · rw [Web.parts,Web.kind,cell,keys.entriesOf here]
    rfl

theorem assemble_mapping (keys : KeyCells w numbers entries)
    (here : w.cells[i]? = some (.mapping .mapping numbers)) (value : Nat → Value) :
    w.needs i = numbers.map (·.2) ∧ w.assemble value i =
      .mapping (putAll (numbers.map fun n => (orNull (w.key n.1),value n.2))) := by
  obtain ⟨hasParts,parts⟩ := parts_mapping keys here
  constructor
  · rw [Web.needs,hasParts,if_pos rfl,parts]
    clear keys here parts
    induction numbers with
    | nil => rfl
    | cons n rest ih => simpa using ih
  · rw [Web.assemble,Web.keyedEntries,Web.kind,cell_of here,keys.entriesOf here]
    simp [Cell.kind,Function.comp_def]

end Parts

/-! ## Values -/

section Values
open Web (valueIn)
variable {w : Web} {i count : Nat}

theorem settled_size (w : Web) (count : Nat) : (w.settled count).size = count := by
  induction count with
  | zero => rfl
  | succ count ih => rw [Web.settled,Web.settle,Array.size_push,ih]

-- The value of a cell is settled from the values of the cells before it.
theorem settled_value (w : Web) (before : i < count) : valueIn (w.settled count) i =
    if (w.needs i).all fun part => (valueIn (w.settled i) part).isSome then
      some (w.assemble (fun part => (valueIn (w.settled i) part).getD .null) i)
    else none := by
  induction count with
  | zero => exact absurd before (Nat.not_lt_zero i)
  | succ count ih =>
    rw [valueIn,Web.settled,Web.settle,settled_size]
    rcases Nat.lt_succ_iff_lt_or_eq.1 before with earlier | rfl
    · rw [Array.getElem?_push_lt (by rwa [settled_size]),← ih earlier,valueIn,
        Array.getElem?_eq_getElem]
    · rw [Array.getElem?_push,settled_size,if_pos rfl]
      rfl

theorem scalar_value {s : Scalar} (known : isStored s = true)
    (cell : w.cells[i]? = some (cellOf s)) (before : i < count) :
    valueIn (w.settled count) i = some (.scalar s) := by
  obtain ⟨needs,assembled⟩ :=
    assemble_scalar known cell fun part => (valueIn (w.settled i) part).getD .null
  rw [settled_value w before,needs,assembled]
  rfl

-- The values of the parts are settled before the value of the whole.
theorem list_value {numbers : List Nat} {items : List Value}
    (cell : w.cells[i]? = some (.sequence .list numbers)) (before : i < count)
    (parts : List.Forall₂ (fun n item => valueIn (w.settled i) n = some item) numbers items) :
    valueIn (w.settled count) i = some (.list items) := by
  obtain ⟨needs,assembled⟩ :=
    assemble_list cell fun part => (valueIn (w.settled i) part).getD .null
  have present : (numbers.all fun n => (valueIn (w.settled i) n).isSome) = true := by
    rw [List.all_eq_true]
    intro n member
    obtain ⟨item,_,settled⟩ := matched parts n member
    rw [settled]
    rfl
  have values : numbers.map (fun n => (valueIn (w.settled i) n).getD .null) = items :=
    map_matched <| parts.imp fun n item settled => by rw [settled,Option.getD_some]
  rw [settled_value w before,needs,present,if_pos rfl,assembled,values]

theorem mapping_value {numbers : List (Nat × Nat)} {entries : Entries}
    (keys : KeyCells w numbers entries) (distinct : (entries.map (·.1)).Nodup)
    (cell : w.cells[i]? = some (.mapping .mapping numbers)) (before : i < count)
    (parts : List.Forall₂ (fun n e => w.cells[n.1]? = some (cellOf e.1) ∧
      valueIn (w.settled i) n.2 = some e.2) numbers entries) :
    valueIn (w.settled count) i = some (.mapping entries) := by
  obtain ⟨needs,assembled⟩ :=
    assemble_mapping keys cell fun part => (valueIn (w.settled i) part).getD .null
  have present : ((numbers.map (·.2)).all fun n => (valueIn (w.settled i) n).isSome) = true := by
    rw [List.all_map,List.all_eq_true]
    intro n member
    obtain ⟨e,_,_,settled⟩ := matched parts n member
    rw [Function.comp_apply,settled]
    rfl
  have values : numbers.map (fun n =>
      (orNull (w.key n.1),(valueIn (w.settled i) n.2).getD .null)) = entries := by
    refine map_matched <| (matched_each parts keys.1).imp fun n e part => ?_
    obtain ⟨⟨name,key,_⟩,cell,settled⟩ := part
    rw [key] at cell
    rw [key_of cell,settled,Option.getD_some,orNull,← key]
  rw [settled_value w before,needs,present,if_pos rfl,assembled,values,
    putAll_distinct keys.1 distinct]

theorem Holds.value {depth : Nat} {v : Value} (holds : Holds w depth i v) (before : i < count) :
    valueIn (w.settled count) i = some v := by
  induction depth generalizing i v count with
  | zero =>
    cases v with
    | scalar s => exact scalar_value holds.1 holds.2 before
    | _ => exact holds.elim
  | succ depth ih =>
    cases v with
    | scalar s => exact scalar_value holds.1 holds.2 before
    | list items =>
      obtain ⟨numbers,cell,parts⟩ := holds
      exact list_value cell before (parts.imp fun _ _ part => ih part.2 part.1)
    | mapping entries =>
      obtain ⟨numbers,cell,named,distinct,parts⟩ := holds
      have keys : KeyCells w numbers entries := ⟨named,parts.imp fun _ _ part => part.2.1⟩
      exact mapping_value keys distinct cell before
        (parts.imp fun _ _ part => ⟨part.2.1,ih part.2.2 part.1⟩)
    | _ => exact holds.elim

end Values

/-! ## Surveys -/

section Surveys
open Web (Part)
variable {w : Web} {i : Nat}

-- A fold that may fail does not, where every step keeps what the next one needs.
theorem foldlM_keeps {α β : Type} {P : β → Prop} {step : β → α → Except Fault β} {items : List α}
    (steps : ∀ b, ∀ a ∈ items, P b → ∃ b', step b a = .ok b' ∧ P b') {b : β} (holds : P b) :
    ∃ b', items.foldlM step b = .ok b' ∧ P b' := by
  induction items generalizing b with
  | nil => exact ⟨b,rfl,holds⟩
  | cons a rest ih =>
    obtain ⟨b',same,holds⟩ := steps b a (.head _) holds
    obtain ⟨last,more,holds⟩ := ih (fun b a member => steps b a (.tail _ member)) holds
    exact ⟨last,by rw [List.foldlM_cons,same]; exact more,holds⟩

-- A cell that stands for some stored value.
def Sound (w : Web) (i : Nat) : Prop := ∃ depth v, Holds w depth i v

def SoundPart (w : Web) : Part → Prop
  | .key i => ∃ name, w.cells[i]? = some (cellOf (.text name))
  | .value i => Sound w i
  | .misfit => False

def SoundParts (w : Web) (i : Nat) : Prop := ∀ part ∈ w.parts i, SoundPart w part

theorem Sound.split (here : Sound w i) :
    (w.hasParts i = false ∧ ∃ s, w.scalar i = .ok s) ∨ (w.hasParts i = true ∧ SoundParts w i) := by
  obtain ⟨depth,v,holds⟩ := here
  have scalar : ∀ s, isStored s = true → w.cells[i]? = some (cellOf s) →
      w.hasParts i = false ∧ ∃ s, w.scalar i = .ok s :=
    fun s known cell => ⟨(scalar_of known cell).2,s,(scalar_of known cell).1⟩
  cases depth with
  | zero =>
    cases v with
    | scalar s => exact .inl (scalar s holds.1 holds.2)
    | _ => exact holds.elim
  | succ depth =>
    cases v with
    | scalar s => exact .inl (scalar s holds.1 holds.2)
    | list items =>
      obtain ⟨numbers,cell,parts⟩ := holds
      obtain ⟨hasParts,same⟩ := parts_list cell
      refine .inr ⟨hasParts,?_⟩
      rw [SoundParts,same,List.forall_mem_map]
      intro n member
      obtain ⟨item,_,_,held⟩ := matched parts n member
      exact ⟨depth,item,held⟩
    | mapping entries =>
      obtain ⟨numbers,cell,named,_,parts⟩ := holds
      have keys : KeyCells w numbers entries := ⟨named,parts.imp fun _ _ part => part.2.1⟩
      obtain ⟨hasParts,same⟩ := parts_mapping keys cell
      refine .inr ⟨hasParts,?_⟩
      rw [SoundParts,same]
      intro part member
      obtain ⟨n,number,either⟩ := List.mem_flatMap.1 member
      obtain ⟨e,_,_,_,held⟩ := matched parts n number
      rcases List.mem_pair.1 either with rfl | rfl
      · exact keys.text n number
      · exact ⟨depth,e.2,held⟩
    | _ => exact holds.elim

-- The collections that are still to be looked at have sound parts.
def SoundHorizon (w : Web) (h : Horizon) : Prop := ∀ i ∈ h.next, SoundParts w i

theorem visit_sound {h : Horizon} (sound : SoundHorizon w h) (here : Sound w i) :
    ∃ h', w.visit h i = .ok h' ∧ SoundHorizon w h' := by
  rw [Web.visit]
  rcases here.split with ⟨bare,s,read⟩ | ⟨parts,inner⟩
  · exact ⟨h,by rw [bare,if_neg Bool.false_ne_true,read]; rfl,sound⟩
  · refine ⟨h.meet i,if_pos parts,?_⟩
    rw [Horizon.meet]
    split
    · exact sound
    · exact List.forall_mem_cons.2 ⟨inner,sound⟩

theorem look_sound {h : Horizon} (sound : SoundHorizon w h) {part : Part}
    (here : SoundPart w part) : ∃ h', w.look h part = .ok h' ∧ SoundHorizon w h' := by
  cases part with
  | key i =>
    obtain ⟨name,cell⟩ := here
    exact ⟨h,by rw [Web.look,key_of cell]; rfl,sound⟩
  | value i => exact visit_sound sound here
  | misfit => exact here.elim

theorem rounds_sound (limit : Nat) {h : Horizon} (sound : SoundHorizon w h) :
    w.rounds limit h = .ok () := by
  induction limit generalizing h with
  | zero => rfl
  | succ limit ih =>
    rw [Web.rounds]
    split
    · rfl
    · have looked : ∀ g : Horizon, ∀ i ∈ h.next.reverse, SoundHorizon w g →
          ∃ h', w.lookInside g i = .ok h' ∧ SoundHorizon w h' := fun g i member still =>
        foldlM_keeps (P := SoundHorizon w) (fun _ part inside still =>
          look_sound still (sound i (List.mem_reverse.1 member) part inside)) still
      obtain ⟨h',same,still⟩ := foldlM_keeps looked (b := { h with next := [] })
        fun i member => nomatch member
      rw [same]
      exact ih still

theorem survey_sound (here : Sound w i) : w.survey i = .ok () := by
  obtain ⟨h,same,sound⟩ := visit_sound (h := {}) (fun _ member => nomatch member) here
  rw [Web.survey,same]
  exact rounds_sound _ sound

end Surveys

theorem Stored.value {depth : Nat} {v : Value} (stored : Stored depth v) :
    (nodeOf depth v).value = .ok v := by
  obtain ⟨_,holds⟩ := stored.lays {}
  have settled := holds.value holds.inside
  rw [Node.value]
  dsimp only
  rw [survey_sound ⟨depth,v,holds⟩,Web.value]
  simp only [ok_bind,settled]
  rfl

end WireGraph.Yaml
