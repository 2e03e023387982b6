import Mathlib.Data.List.Nodup
import WireGraph.Loading
import WireGraph.Proofs.Document.Record
import WireGraph.Proofs.Files
import WireGraph.Proofs.Yaml.Document

/-!
# Stored records

Records as texts, and texts in files. Main statements: a snapshot and a transaction read back from
the text that they are written as, and from the file that this text is written to.
-/

namespace WireGraph.Document

open Yaml (Stored isFieldName)

/-! ## Records as stored values -/

-- Names that may stand together as the fields of one record.
def areFields (names : List String) : Bool :=
  !names.isEmpty && names.all isFieldName && decide names.Nodup

theorem stored_record {depth : Nat} {fields : List (String × Value)} (names : List String)
    (same : fields.map (·.1) = names) (sound : areFields names = true)
    (stored : ∀ f ∈ fields, Stored depth f.2) : Stored (depth + 1) (.record fields) := by
  simp only [areFields,Bool.and_eq_true,Bool.not_eq_true',List.isEmpty_eq_false_iff,
    List.all_eq_true,decide_eq_true_eq] at sound
  obtain ⟨⟨filled,named⟩,distinct⟩ := sound
  subst same
  refine .mapping ?_ ?_ ?_ (List.forall_mem_map.2 stored)
  · simpa using filled
  · rw [List.map_map]
    have texts : fields.map (Prod.fst ∘ fun f => (Scalar.text f.1,f.2)) =
        (fields.map (·.1)).map Scalar.text := by rw [List.map_map]; rfl
    rw [texts]
    exact List.Nodup.map (fun _ _ equal => Scalar.text.inj equal) distinct
  · intro e member
    obtain ⟨f,inside,rfl⟩ := List.mem_map.1 member
    exact ⟨f.1,rfl,named f.1 (List.mem_map_of_mem inside)⟩

theorem stored_text {depth : Nat} (s : String) : Stored depth (.text s) := .scalar rfl

theorem stored_flag {depth : Nat} (b : Bool) : Stored depth (.flag b) := .scalar rfl

theorem stored_optional {depth : Nat} (s : Option String) : Stored depth (.optional s) := by
  cases s <;> exact .scalar rfl

theorem stored_list {α : Type} {depth : Nat} {write : α → Value}
    (stored : ∀ a, Stored depth (write a)) (items : List α) :
    Stored (depth + 1) (.list (items.map write)) :=
  .list (List.forall_mem_map.2 fun a _ => stored a)

theorem stored_component (depth : Nat) (c : Component) :
    Stored (depth + 1) (Component.toValue c) := by
  refine stored_record ["id","pid","factory_pid","name","role","driver_ref"] rfl (by decide) ?_
  simp [stored_text,stored_optional,roleValue]

theorem stored_wire (depth : Nat) (w : Wire) : Stored (depth + 1) (Wire.toValue w) := by
  refine stored_record ["id","producer","consumer","is_new"] rfl (by decide) ?_
  simp [stored_text,stored_flag]

theorem stored_registration (depth : Nat) (r : Registration) :
    Stored (depth + 1) (Registration.toValue r) := by
  refine stored_record ["pid","factory_pid","name","role","driver_ref"] rfl (by decide) ?_
  simp [stored_text,stored_optional,roleValue]

theorem stored_deletion (depth : Nat) (d : Deletion) :
    Stored (depth + 1) (Deletion.toValue d) := by
  cases d with
  | wire d =>
    refine stored_record ["kind","producer","consumer"] rfl (by decide) ?_
    simp [stored_text]
  | component d =>
    refine stored_record ["kind","pid"] rfl (by decide) ?_
    simp [stored_text]

theorem stored_topology (depth : Nat) (t : Topology) :
    Stored (depth + 3) (Topology.toValue t) := by
  refine stored_record ["components","wires"] rfl (by decide) ?_
  simp [stored_list (stored_component depth),stored_list (stored_wire depth)]

theorem stored_transaction (t : Transaction) : Stored 4 (Transaction.toValue t) := by
  refine stored_record ["topology","deletions"] rfl (by decide) ?_
  simp [stored_topology 0,stored_list (stored_deletion 1)]

theorem stored_snapshot (s : Snapshot) : Stored 4 (Snapshot.toValue s) := by
  refine stored_record ["graph","components","producer_factories","consumer_factories","drivers"]
    rfl (by decide) ?_
  simp [stored_topology 0,stored_list (stored_registration 1),Value.texts,stored_list stored_text]

/-! ## Texts -/

-- A record that is written as a stored mapping reads back.
theorem readRecord_stored {α : Type} [Record α] {a : α} {depth : Nat} {entries : Entries}
    (shape : toValue a = .mapping entries) (stored : Stored (depth + 1) (toValue a))
    (narrow : 2 + 2 * depth < Yaml.width) (passes : Record.check (toValue a) = Check.ok a) :
    readRecord α (writeRecord a) = .ok a := by
  rw [shape] at stored passes
  have read := Yaml.read_write stored narrow
  have fields : fieldsOf (.mapping entries) = .ok (.mapping entries) := by
    cases stored with
    | mapping filled distinct named stored =>
      have keys : textKeys entries = true := by
        rw [textKeys,List.all_eq_true]
        intro e member
        obtain ⟨name,key,_⟩ := named e member
        rw [key]
      rw [fieldsOf,Value.isBlank,List.isEmpty_eq_false_iff.2 filled]
      simp [keys]
  rw [readRecord,writeRecord,shape,read]
  simp only [Yaml.ok_bind,fields,ofValue,passes]
  rfl

theorem readRecord_snapshot (s : Snapshot) : readRecord Snapshot (writeRecord s) = .ok s :=
  readRecord_stored rfl (stored_snapshot s) (by decide) (Snapshot.check_toValue s)

theorem readRecord_transaction (t : Transaction) :
    readRecord Transaction (writeRecord t) = .ok t :=
  readRecord_stored rfl (stored_transaction t) (by decide) (Transaction.check_toValue t)

end WireGraph.Document

/-! ## Files -/

namespace WireGraph

open Document (readRecord readRecord_snapshot readRecord_transaction writeRecord)

namespace FileTree
variable {files written : FileTree} {path : Path}

theorem write_loadSnapshot {s : Snapshot} (wrote : files.write path (writeRecord s) = (.ok (),written)) :
    written.loadSnapshot path = .ok s := by
  rw [loadSnapshot,write_read wrote,orFile,Yaml.ok_bind,readRecord_snapshot]

theorem write_loadTransaction {t : Transaction}
    (wrote : files.write path (writeRecord t) = (.ok (),written)) :
    written.loadTransaction path = .ok t := by
  rw [loadTransaction,write_read wrote,orFile,Yaml.ok_bind,readRecord_transaction]

theorem save_loadTransaction {t : Transaction}
    (saved : files.save path (writeRecord t) = (.ok (),written)) :
    written.loadTransaction path = .ok t := by
  obtain ⟨_,_,wrote⟩ := save_parts saved
  exact write_loadTransaction wrote

-- Every snapshot and every transaction reads back from its text, and from the file with that text.
theorem stored_loaded :
    (∀ s : Snapshot, readRecord Snapshot (writeRecord s) = .ok s) ∧
    (∀ t : Transaction, readRecord Transaction (writeRecord t) = .ok t) ∧
    (∀ (files written : FileTree) (path : Path) (s : Snapshot),
      files.write path (writeRecord s) = (.ok (),written) → written.loadSnapshot path = .ok s) ∧
    ∀ (files written : FileTree) (path : Path) (t : Transaction),
      files.save path (writeRecord t) = (.ok (),written) → written.loadTransaction path = .ok t :=
  ⟨readRecord_snapshot,readRecord_transaction,fun _ _ _ _ => write_loadSnapshot,
    fun _ _ _ _ => save_loadTransaction⟩

def thornySnapshot : Snapshot :=
  { graph := {
      components := [⟨"c-1","none","yes",": # -",.both,some ""⟩]
      wires := [⟨" w\n","0x1F","~",false⟩] }
    components := [⟨"it's","2024-01-01","\"\\\t",.producer,none⟩]
    drivers := ["null","",String.singleton (Char.ofNat 0x5D800)] }

def thornyTransaction : Transaction :=
  { topology := thornySnapshot.graph
    deletions := [.component ⟨"null"⟩,.wire ⟨"a: b"," #c"⟩,.component ⟨""⟩] }

def storePath : Path := { names := ["store.yaml"] }

def storeOf (text : String) : FileTree := { files := [(["store.yaml"],text)] }

theorem thorny_loaded :
    (write {} storePath (writeRecord thornySnapshot) =
        (.ok (),storeOf (writeRecord thornySnapshot)) ∧
      (storeOf (writeRecord thornySnapshot)).loadSnapshot storePath = .ok thornySnapshot) ∧
    save {} storePath (writeRecord thornyTransaction) =
        (.ok (),storeOf (writeRecord thornyTransaction)) ∧
      (storeOf (writeRecord thornyTransaction)).loadTransaction storePath = .ok thornyTransaction := by
  have vacant : locate {} storePath = .vacant ["store.yaml"] := by decide +kernel
  have top : locate {} {} = .directory := by decide +kernel
  have wrote : ∀ text, write {} storePath text = (.ok (),storeOf text) := by
    intro text
    have nameable : storePath.isUnnameable = false := by simp [Path.isUnnameable,storePath]
    rw [write,nameable,vacant]
    rfl
  have saved : ∀ text, save {} storePath text = (.ok (),storeOf text) := by
    intro text
    have occupied : addDirectory {} {} = .error (.occupied {}) := by
      simp [addDirectory,top,Path.isUnnameable]
    have parent : makeDirectory {} storePath.parent = (.ok (),{}) := by
      change makeDirectory {} {} = _
      rw [makeDirectory_nil,addOrKeep,occupied]
      exact congrArg (·,({} : FileTree)) (if_pos top)
    rw [save,parent]
    exact wrote text
  exact ⟨⟨wrote _,stored_loaded.2.2.1 {} _ storePath thornySnapshot (wrote _)⟩,saved _,
    stored_loaded.2.2.2 {} _ storePath thornyTransaction (saved _)⟩

end FileTree

end WireGraph
