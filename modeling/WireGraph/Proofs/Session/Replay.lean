import Mathlib.Data.List.Nodup
import WireGraph.Proofs.Session.Course

/-!
# Events as a log

A roster lists the ids of components and the wires with their ends, and an event changes it as it
says, if it can be true of it: what is added is not there yet, what is removed is, a wire is added
between components that are there, and a component leaves only when no wire is at it. Main statement:
wherever the events of a run are collected, all of them together, and then those that still wait, can
be true one after another and lead from the roster of the graph before the run to the one after it.
-/

namespace WireGraph

-- A wire is listed by its id, its producer and its consumer.
structure Roster where
  components : List String
  wires : List (String × String × String)
deriving DecidableEq, Repr

namespace Roster

def after? (r : Roster) : Event → Option Roster
  | .componentAdded id =>
    if id ∉ r.components then some { r with components := r.components ++ [id] } else none
  | .componentRemoved id _ =>
    if id ∈ r.components ∧ ∀ w ∈ r.wires, w.2.1 ≠ id ∧ w.2.2 ≠ id then
      some { r with components := r.components.erase id }
    else none
  | .wireAdded id producer consumer =>
    if id ∉ r.wires.map (·.1) ∧ producer ∈ r.components ∧ consumer ∈ r.components then
      some { r with wires := r.wires ++ [(id,producer,consumer)] }
    else none
  | .wireRemoved id producer consumer =>
    if (id,producer,consumer) ∈ r.wires then
      some { r with wires := r.wires.erase (id,producer,consumer) }
    else none

-- Applies the events in order; there is no answer as soon as one of them cannot be true.
def replay? (r : Roster) (events : List Event) : Option Roster := events.foldlM after? r

theorem replay?_concat {r middle : Roster} {events : List Event} (e : Event)
    (before : r.replay? events = some middle) : r.replay? (events ++ [e]) = middle.after? e := by
  rw [replay?] at before ⊢
  rw [List.foldlM_append,before]
  simp

end Roster

def Wire.entry (w : Wire) : String × String × String := (w.id,w.producer,w.consumer)

def Topology.roster (t : Topology) : Roster := ⟨t.components.map (·.id),t.wires.map (·.entry)⟩

theorem erase_map {α β : Type} [BEq β] [LawfulBEq β] {f : α → β} {as : List α}
    (distinct : (as.map f).Nodup) (b : β) :
    (as.map f).erase b = (as.filter fun a => f a != b).map f := by
  rw [distinct.erase_eq_filter,List.filter_map]
  rfl

namespace Graph
variable {g after : Graph} {change : Change} {out seen : List Event} {initial : Roster}

def roster (g : Graph) : Roster := g.topology.roster

theorem commit_roster (g : Graph) : g.commit.roster = g.roster := by
  simp [roster,Topology.roster,topology,commit,Component.committed_id,Wire.committed,Wire.entry,
    Function.comp_def]

theorem Keyed.entries (keyed : g.Keyed) : (g.wires.values.map (·.entry)).Nodup := by
  refine List.Nodup.of_map (·.1) ?_
  rw [List.map_map]
  exact keyed.wire_ids ▸ g.wires.keys_nodup

-- A wire is the only one with its id, so it is the only one with its entry.
theorem Keyed.entry_ne (keyed : g.Keyed) {v w : Wire} (stored : v ∈ g.wires.values)
    (also : (w.id,w) ∈ g.wires.entries) : (v.entry != w.entry) = (v.id != w.id) := by
  by_cases same : v.id = w.id
  · have entry := keyed.wire stored
    rw [same] at entry
    rw [Table.entry_unique entry also]
    simp
  · have other : v.entry ≠ w.entry := fun equal => same (congrArg Prod.fst equal)
    rw [bne_iff_ne.mpr other,bne_iff_ne.mpr same]

theorem Keyed.roster_components (keyed : g.Keyed) :
    g.topology.roster.components = g.components.keys := keyed.component_ids

theorem Keyed.roster_wires (keyed : g.Keyed) :
    g.topology.roster.wires.map (·.1) = g.wires.keys := by
  rw [Topology.roster,List.map_map]
  exact keyed.wire_ids

-- A change reports what it does, and the report can be true of the graph before it.
theorem Moves.reports (move : Moves g change after) (keyed : g.Keyed)
    (spares : g.Spares g.drawn after.drawn) :
    ∃ e, after.events = g.events ++ [e] ∧ g.roster.after? e = some after.roster := by
  rw [roster,roster,move.topology keyed spares]
  cases move with
  | @placed spec =>
    have unlisted : g.nextId ∉ g.topology.roster.components :=
      keyed.roster_components ▸ (spares.next (Nat.lt_succ_self _)).1
    refine ⟨_,rfl,(if_pos unlisted).trans ?_⟩
    simp [Topology.roster,Topology.changed,NewComponent.withId]
  | @connected producer consumer admitted =>
    obtain ⟨_,_,_,p,c,source,target,_⟩ := checkConnect_iff.mp admitted
    have unlisted : g.nextId ∉ g.topology.roster.wires.map (·.1) :=
      keyed.roster_wires ▸ (spares.next (Nat.lt_succ_self _)).2
    have starts : producer ∈ g.topology.roster.components :=
      keyed.roster_components ▸ Table.key_mem (Table.get?_iff.mp source)
    have ends : consumer ∈ g.topology.roster.components :=
      keyed.roster_components ▸ Table.key_mem (Table.get?_iff.mp target)
    refine ⟨_,rfl,(if_pos ⟨unlisted,starts,ends⟩).trans ?_⟩
    simp [Topology.roster,Topology.changed,Wire.entry]
  | @cut w stored =>
    have listed : w.entry ∈ g.topology.roster.wires :=
      List.mem_map.mpr ⟨w,List.mem_map.mpr ⟨_,stored,rfl⟩,rfl⟩
    have erased := erase_map keyed.entries w.entry
    rw [List.filter_congr fun v here => keyed.entry_ne here stored] at erased
    exact ⟨_,rfl,(if_pos listed).trans (congrArg (fun ws => some (Roster.mk _ ws)) erased)⟩
  | @removed c stored free =>
    have listed : c.id ∈ g.topology.roster.components :=
      keyed.roster_components ▸ Table.key_mem stored
    have bare : ∀ w ∈ g.topology.roster.wires, w.2.1 ≠ c.id ∧ w.2.2 ≠ c.id :=
      List.forall_mem_map.mpr (attached_nil.mp free)
    have erased := erase_map (keyed.component_ids ▸ g.components.keys_nodup) c.id
    exact ⟨_,rfl,(if_pos ⟨listed,bare⟩).trans (congrArg (fun cs => some (Roster.mk cs _)) erased)⟩

-- What was collected before and what still waits lead to the roster of the graph. A passage keeps that.
theorem Happens.replayed (happens : Happens g out after) (keyed : g.Keyed)
    (spares : g.Spares g.drawn after.drawn)
    (replayed : initial.replay? (seen ++ g.events) = some g.roster) :
    initial.replay? (seen ++ out ++ after.events) = some after.roster := by
  cases happens with
  | moved move =>
    obtain ⟨e,events,applied⟩ := move.reports keyed spares
    rw [events,List.append_nil,← List.append_assoc,Roster.replay?_concat e replayed,applied]
  | committed => rw [commit_roster,List.append_nil]; exact replayed
  | noted | barred => rw [List.append_nil]; exact replayed
  | drained => rw [drain,List.append_nil]; exact replayed

theorem Passes.replayed (passes : Passes g out after) (keyed : g.Keyed)
    (spares : g.Spares g.drawn after.drawn) (quiet : g.events = []) :
    g.roster.replay? (out ++ after.events) = some after.roster :=
  passes.keeps (P := fun seen h => g.roster.replay? (seen ++ h.events) = some h.roster) keyed spares []
    (fun happens keyed spares replayed => happens.replayed keyed spares replayed)
    (by rw [quiet]; rfl)

end Graph

namespace Session
variable {s : Session}

theorem log_replays (keyed : s.graph.Keyed) (quiet : s.graph.events = []) {actions : List Action}
    (plain : everyIn Step.plain actions = true) (stops : Bool)
    (spares : s.graph.Spares s.graph.drawn (s.runAll stops actions).after.graph.drawn) :
    let course := s.runAll stops actions
    s.graph.roster.replay? (collectedAlong course.traces ++ course.after.graph.events) =
      some course.after.graph.roster := by
  have follows : Follows s true (s.runAll stops actions).traces (s.runAll stops actions).after :=
    runAll_follows keyed actions stops (everyIn_mono Step.plain_lawful actions plain) fun _ => plain
  obtain ⟨out,passes,collected⟩ := follows.passes
  have replayed := passes.replayed keyed spares quiet
  rwa [collected rfl] at replayed

-- A day of edits that only the graph hears of: one is refused, a save is taken while its registry
-- looks at the events, and everything goes in the end.
def deskDay : List Action :=
  [.step (.edit (.place { name := "E", factory := "filter", role := .both })),
    .step (.edit (.connect "a" "id-2")),.step .drain,.step (.edit (.remove "a")),
    .save false [.step (.edit .clear),.step .drain,.step .drain] false .accept,
    .step (.edit (.disconnect "w")),.step (.edit .clear)]

theorem desk_replays :
    let course := shift.runAll false deskDay
    let log := collectedAlong course.traces ++ course.after.graph.events
    everyIn Step.plain deskDay = true ∧
      shift.graph.Spares shift.graph.drawn course.after.graph.drawn ∧
      shift.graph.roster = ⟨["a","b","id-1"],[("w","a","b")]⟩ ∧
      log = [.componentAdded "id-2",.wireAdded "id-3" "a" "id-2",
        .wireRemoved "w" "a" "b",.wireRemoved "id-3" "a" "id-2",.componentRemoved "a" "p",
        .componentRemoved "b" "B",.componentRemoved "id-1" "q",.componentRemoved "id-2" "E"] ∧
      course.after.graph.events.length = 3 ∧
      shift.graph.roster.replay? log = some course.after.graph.roster ∧
      course.after.graph.roster = ⟨[],[]⟩ := by
  have started : Session.start handover {} = .ok shift := by decide +kernel
  have plain : everyIn Step.plain deskDay = true := by decide
  have spares : shift.graph.Spares shift.graph.drawn
      (shift.runAll false deskDay).after.graph.drawn := by decide +kernel
  have replayed := log_replays (start_quiet started).1 (start_quiet started).2.2 plain false spares
  exact ⟨plain,spares,by decide +kernel,by decide +kernel,by decide +kernel,replayed,
    by decide +kernel⟩

end Session

end WireGraph
