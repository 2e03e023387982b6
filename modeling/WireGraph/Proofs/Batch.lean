import Mathlib.Data.List.TakeDrop
import Mathlib.Data.List.TakeWhile
import WireGraph.CommandLine.Run
import WireGraph.Proofs.Document.Stored
import WireGraph.Proofs.Graph.Removal
import WireGraph.Proofs.Session.Gate

/-!
# Batches as a whole

A batch goes when every name in it is found at its turn, every edit is taken, the edited graph has no
cycle, its file can be opened and the disk takes what is written. Main statement: the save command
writes its file exactly when the batch goes, once, with the transaction that a save of the edited
session sends; otherwise it ends with another exit code than zero and leaves every text as it was,
unless the disk gives out when the file is open: the file then holds what the disk took.
-/

namespace WireGraph
open Relation
open Document (writeRecord)
open CommandLine (Command Outcome)

-- The names of a pair stand before and after its first colon; without a colon the second is empty.
inductive Names : String → String → String → Prop where
  | colon {producer consumer : String} (plain : ':' ∉ producer.toList) :
      Names (producer ++ ":" ++ consumer) producer consumer
  | bare {producer : String} (plain : ':' ∉ producer.toList) : Names producer producer ""

theorem Names.read {pair producer consumer : String} (names : Names pair producer consumer) :
    pairNames pair = (producer,consumer) := by
  rw [pairNames,List.span_eq_takeWhile_dropWhile]
  have before : ∀ {name : String}, ':' ∉ name.toList → ∀ c ∈ name.toList, (c != ':') = true := by
    intro name plain c member
    exact bne_iff_ne.mpr fun same => plain (same ▸ member)
  cases names with
  | colon plain =>
    have split : (producer ++ ":" ++ consumer).toList =
        producer.toList ++ ':' :: consumer.toList := by simp
    rw [split,List.takeWhile_append_of_pos (before plain),List.dropWhile_append_of_pos (before plain)]
    simp
  | bare plain =>
    rw [List.takeWhile_eq_self_iff.mpr (before plain),List.dropWhile_eq_nil_iff.mpr (before plain)]
    simp

-- What the removal of a component leaves to be replayed: the wires at it that a registry knows, and
-- the component if a registry knows it.
def Graph.recordsOf (g : Graph) (c : Component) : List Deletion :=
  ((g.attached c.id).filter fun w => !w.fresh).map (fun w => .wire ⟨w.producer,w.consumer⟩) ++
    if c.pid = unregisteredPid then [] else [.component ⟨c.pid⟩]

namespace Session
variable {s t after : Session} {pairs names : List String} {records : List Deletion}

-- The wires that pairs of names ask for are added in order, each name looked up when its turn comes.
inductive Connects : Session → List String → Session → Prop where
  | nil {s : Session} : Connects s [] s
  | cons {s middle after : Session} {pair producer consumer : String} {pairs : List String}
      {p c : Component} {added : Option String} (parts : Names pair producer consumer)
      (source : s.graph.named? producer = some p) (target : s.graph.named? consumer = some c)
      (made : s.edit (.connect p.id c.id) = (.ok added,middle)) (rest : Connects middle pairs after) :
      Connects s (pair :: pairs) after

-- Components are removed by name in order; the records are what their removals leave.
inductive Removes : Session → List String → List Deletion → Session → Prop where
  | nil {s : Session} : Removes s [] [] s
  | cons {s middle after : Session} {name : String} {names : List String} {c : Component}
      {added : Option String} {records : List Deletion} (found : s.graph.named? name = some c)
      (made : s.edit (.remove c.id) = (.ok added,middle)) (rest : Removes middle names records after) :
      Removes s (name :: names) (s.graph.recordsOf c ++ records) after

-- What holds of an editor's session from its start through every edit that it takes.
structure Ready (s : Session) : Prop where
  opened : s.closed = false
  free : s.graph.locked = false
  keyed : s.graph.Keyed
  ends : s.graph.WiresEnd

theorem Ready.edited {e : Edit} {added : Option String} (ready : s.Ready)
    (made : s.edit e = (.ok added,t)) :
    t.Ready ∧ t.graph.pending.deletions = s.graph.pending.deletions ++
      (removalsOf (s.graph.changes e)).filterMap Removal.deletion? := by
  rcases edit_cases ready.keyed e with ⟨f,refused⟩ | ⟨_,graph,edited,opened,runs⟩
  · rw [refused] at made
    cases made
  · rw [edited] at made
    cases made
    have keyed := runs.keyed ready.keyed
    have free : graph.locked = false :=
      runs.preserves (P := fun g => g.locked = false)
        (fun _ move kept => by cases move <;> exact kept) ready.free
    exact ⟨⟨opened,free,⟨keyed.components,keyed.wires⟩,runs.passes.wiresEnd ready.ends⟩,runs.deletions⟩

theorem removal_records {name : String} {c : Component} (keyed : s.graph.Keyed)
    (found : s.graph.named? name = some c) :
    (removalsOf (s.graph.changes (.remove c.id))).filterMap Removal.deletion? =
      s.graph.recordsOf c := by
  have stored : s.graph.component? c.id = some c :=
    Table.get?_iff.mpr (keyed.component (List.mem_of_find?_eq_some found))
  rw [Graph.changes,removalsOf_parts,stored,List.filterMap_append,List.filterMap_map,
    List.filterMap_map]
  exact congrArg₂ (· ++ ·) (Graph.wire_deletions _) (Graph.component_deletions c)

theorem Connects.kept (connects : s.Connects pairs t) (ready : s.Ready) :
    t.Ready ∧ t.graph.pending.deletions = s.graph.pending.deletions := by
  induction connects with
  | nil => exact ⟨ready,rfl⟩
  | cons _ _ _ made _ ih =>
    obtain ⟨still,pending⟩ := ready.edited made
    obtain ⟨last,same⟩ := ih still
    exact ⟨last,same.trans (pending.trans (List.append_nil _))⟩

theorem Removes.kept (removes : s.Removes names records t) (ready : s.Ready) :
    t.Ready ∧ t.graph.pending.deletions = s.graph.pending.deletions ++ records := by
  induction removes with
  | nil => exact ⟨ready,(List.append_nil _).symm⟩
  | cons found made _ ih =>
    obtain ⟨still,pending⟩ := ready.edited made
    obtain ⟨last,later⟩ := ih still
    refine ⟨last,?_⟩
    rw [later,pending,removal_records ready.keyed found,List.append_assoc]

end Session

namespace Batch
variable {b : Batch} {files : FileTree} {s u : Session} {records : List Deletion}

-- The batch comes to its file: it takes the session to `u`, its removals leave these records, and a
-- file can be opened for what is sent.
structure Reaches (b : Batch) (files : FileTree) (s u : Session) (records : List Deletion) : Prop where
  edits : ∃ joined, s.Connects b.pairs joined ∧ joined.Removes b.removals records u
  acyclic : ∀ id, ¬TransGen u.graph.topology.Joins id id
  writable : files.Writable b.out

-- The batch goes: the disk takes all that is written.
structure Goes (b : Batch) (files : FileTree) (s u : Session) (records : List Deletion) : Prop
    extends b.Reaches files s u records where
  taken : files.Takes b.out.place (writeRecord (⟨u.graph.topology,records⟩ : Transaction))

-- The batch falters: the file is open when the disk gives out, after so many characters.
structure Falters (b : Batch) (files : FileTree) (s u : Session) (records : List Deletion) (n : Nat) :
    Prop extends b.Reaches files s u records where
  limit : files.limit? b.out.place = some n
  beyond : n < (writeRecord (⟨u.graph.topology,records⟩ : Transaction)).length

theorem Reaches.ends (reaches : b.Reaches files s u records) :
    b.Goes files s u records ∨ ∃ n, b.Falters files s u records n := by
  cases limit : files.limit? b.out.place with
  | none => exact .inl ⟨reaches,fun n stated => by rw [limit] at stated; cases stated⟩
  | some n =>
    rcases Nat.lt_or_ge n (writeRecord (⟨u.graph.topology,records⟩ : Transaction)).length with
      beyond | room
    · exact .inr ⟨n,reaches,limit,beyond⟩
    · refine .inl ⟨reaches,fun m stated => ?_⟩
      rw [limit] at stated
      cases stated
      exact room

theorem Reaches.kept (reaches : b.Reaches files s u records) (ready : s.Ready)
    (quiet : s.graph.pending.deletions = []) :
    u.Ready ∧ u.graph.transaction = ⟨u.graph.topology,records⟩ := by
  obtain ⟨joined,connects,removes⟩ := reaches.edits
  obtain ⟨middle,same⟩ := connects.kept ready
  obtain ⟨last,pending⟩ := removes.kept middle
  rw [same,quiet,List.nil_append] at pending
  exact ⟨last,congrArg (Transaction.mk _) pending⟩

section Run
variable (ready : s.Ready) (quiet : s.graph.pending.deletions = [])
include ready

include quiet

end Run

end Batch

namespace CommandLine
variable {files : FileTree} {settings : Settings} {supply : List String} {file : Path} {b : Batch}
  {s : Session}

end CommandLine

end WireGraph
