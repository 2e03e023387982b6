import Mathlib.Data.List.Basic
import WireGraph.Proofs.Graph.Removal
import WireGraph.Proofs.Session.Run

/-!
# What is delivered

The removals of a run, from what is in the graph before an action and not after it, and the records
that a registry is due for them, from the wires it was told of: those that were stored as committed
and those of the transactions it accepted. Main statement: the deletions of the accepted transactions,
one after another, and then those that are pending are exactly these records, in the order of the
removals.
-/

namespace WireGraph

-- The record that a removal is worth to a registry that knows the wires `known`.
def Removal.due? (known : List String) : Removal → Option Deletion
  | .wire w => if w.id ∈ known then some (.wire ⟨w.producer,w.consumer⟩) else none
  | .component c => if c.pid = unregisteredPid then none else some (.component ⟨c.pid⟩)

namespace Trace

def delivered (t : Trace) : List Deletion := t.taken.elim [] (·.deletions)

-- The wires that a registry is told of.
def taught (t : Trace) : List String := t.taken.elim [] (·.topology.wires.map (·.id))

theorem delivered_none {t : Trace} (open_end : t.accepted = false) : t.delivered = [] := by
  rw [delivered,taken,if_neg (by simp [open_end])]
  rfl

theorem taught_none {t : Trace} (open_end : t.accepted = false) : t.taught = [] := by
  rw [taught,taken,if_neg (by simp [open_end])]
  rfl

end Trace

namespace Graph
variable {g after : Graph} {known : List String} {upto : Nat} {change : Change} {path : List Change}

def committedWires (g : Graph) : List String := (g.wires.values.filter (!·.fresh)).map (·.id)

-- The wires that are not fresh are those that a registry knows, and no id to come is one of theirs.
structure Knows (g : Graph) (known : List String) (upto : Nat) : Prop where
  wires : ∀ w ∈ g.wires.values, w.fresh = false ↔ w.id ∈ known
  unused : ∀ n, n ≤ upto → g.drawn < n → g.drawnId n ∉ known

theorem knows_committed (keyed : g.Keyed) (spares : g.Spares g.drawn upto) :
    g.Knows g.committedWires upto := by
  refine ⟨fun w stored => ?_,fun n under past told => ?_⟩
  · simp only [committedWires,List.mem_map,List.mem_filter,Bool.not_eq_true']
    constructor
    · exact fun committed => ⟨w,⟨stored,committed⟩,rfl⟩
    · rintro ⟨other,⟨also,committed⟩,same⟩
      have entry := keyed.wire also
      rw [same] at entry
      exact Table.entry_unique (keyed.wire stored) entry ▸ committed
  · obtain ⟨w,left,same⟩ := List.mem_map.mp told
    have key := Table.key_mem (keyed.wire (List.mem_filter.mp left).1)
    exact (spares.unused n under past).2 (same ▸ key)

theorem Knows.gone (knows : g.Knows known upto) (after : Graph) :
    (g.gone after).filterMap (·.due? known) = (g.gone after).filterMap (·.deletion?) := by
  refine List.filterMap_congr fun removal member => ?_
  rcases List.mem_append.mp member with wire | component
  · obtain ⟨w,left,rfl⟩ := List.mem_map.mp wire
    have exactly := knows.wires w (List.mem_filter.mp left).1
    change (if w.id ∈ known then _ else _) = w.deletion?
    rw [Wire.deletion?]
    cases fresh : w.fresh with
    | true => simp [← exactly,fresh]
    | false => simp [← exactly,fresh]
  · obtain ⟨c,_,rfl⟩ := List.mem_map.mp component
    change (if c.pid = unregisteredPid then _ else _) = c.deletion?
    rw [Component.deletion?]
    cases registered : c.registered with
    | true => rw [if_neg (Component.registered_iff.mp registered)]; rfl
    | false => rw [if_pos (Component.unregistered_iff.mp registered)]; rfl

theorem Moves.knows (move : Moves g change after) (upward : after.drawn ≤ upto)
    (knows : g.Knows known upto) : after.Knows known upto := by
  refine ⟨?_,fun n under past => drawnId_congr move.supply ▸
    knows.unused n under (Nat.lt_of_le_of_lt move.drawn_le past)⟩
  intro w stored
  obtain ⟨e,entry,rfl⟩ := List.mem_map.mp stored
  cases move with
  | placed => exact knows.wires _ (List.mem_map.mpr ⟨e,entry,rfl⟩)
  | connected =>
    rcases Table.mem_insert.mp entry with rfl | ⟨old,_⟩
    · have new : g.nextId ∉ known := knows.unused _ upward (Nat.lt_succ_self _)
      exact ⟨fun committed => (nomatch committed),fun told => absurd told new⟩
    · exact knows.wires _ (List.mem_map.mpr ⟨e,old,rfl⟩)
  | cut => exact knows.wires _ (List.mem_map.mpr ⟨e,(List.mem_filter.mp entry).1,rfl⟩)
  | removed => exact knows.wires _ (List.mem_map.mpr ⟨e,entry,rfl⟩)

theorem Runs.knows (runs : Runs g path after) (upward : after.drawn ≤ upto)
    (knows : g.Knows known upto) : after.Knows known upto := by
  induction runs with
  | nil => exact knows
  | cons move rest ih => exact ih upward (move.knows (Nat.le_trans rest.drawn_le upward) knows)

end Graph

namespace Session
variable {s final : Session} {t : Trace} {traces : List Trace} {known : List String} {upto : Nat}

-- The records that a registry is due for the removals of a run, in the order of the removals.
def due (known : List String) (g : Graph) : List Trace → List Deletion
  | [] => []
  | t :: rest =>
    (g.gone t.after.graph).filterMap (·.due? known) ++ due (known ++ t.taught) t.after.graph rest

theorem Settles.gone (settles : Settles s t) (keyed : s.graph.Keyed) :
    s.graph.gone t.after.graph = [] := by
  refine Graph.gone_none keyed (fun k old => ?_) fun k old => ?_
  · rwa [settles.wires,Table.keys_mapValues]
  · rwa [settles.components,Table.keys_mapValues]

theorem Turn.knows (turn : Turn s t) (opened : t.after.closed = false) (keyed : s.graph.Keyed)
    (upward : t.after.graph.drawn ≤ upto) (spares : s.graph.Spares s.graph.drawn upto)
    (knows : s.graph.Knows known upto) : t.after.graph.Knows (known ++ t.taught) upto := by
  cases accepted : t.accepted with
  | true =>
    have settles := turn.settles accepted
    have taught : t.taught = s.graph.wires.keys := by
      rw [Trace.taught,settles.taken]
      exact keyed.wire_ids
    rw [taught]
    refine ⟨fun w stored => ?_,fun n under past => ?_⟩
    · have sent : w.id ∈ s.graph.wires.keys := by
        rw [← Table.keys_mapValues s.graph.wires (·.committed),← settles.wires]
        exact Table.key_mem ((turn.keyed keyed).wire stored)
      exact iff_of_true (settles.known w stored) (List.mem_append_right _ sent)
    · have later := Nat.lt_of_le_of_lt turn.drawn_le past
      rw [Graph.drawnId_congr turn.supply,List.mem_append]
      rintro (old | sent)
      · exact knows.unused n under later old
      · exact (spares.unused n under later).2 sent
  | false =>
    rw [Trace.taught_none accepted,List.append_nil]
    rcases turn.unsettled opened accepted with after | ⟨e,graph,_,runs,after⟩
    · rwa [after]
    · rw [after] at upward ⊢
      have made := runs.knows upward knows
      exact ⟨made.wires,made.unused⟩

-- What was pending and what is removed now is either delivered or still pending.
theorem Turn.delivers (turn : Turn s t) (opened : t.after.closed = false) (keyed : s.graph.Keyed)
    (knows : s.graph.Knows known upto) :
    s.graph.pending.deletions ++ (s.graph.gone t.after.graph).filterMap (·.due? known) =
      t.delivered ++ t.after.graph.pending.deletions := by
  have still : s.graph.gone s.graph = [] :=
    Graph.gone_none keyed (fun _ old => old) fun _ old => old
  cases accepted : t.accepted with
  | true =>
    have settles := turn.settles accepted
    rw [settles.gone keyed,Trace.delivered,settles.taken,settles.pending]
    rfl
  | false =>
    rw [Trace.delivered_none accepted,List.nil_append]
    rcases turn.unsettled opened accepted with after | ⟨e,graph,_,runs,after⟩
    · rw [after,still]
      exact List.append_nil _
    · rw [knows.gone,after]
      have records := runs.deletions
      rw [← Graph.apply_gone keyed runs] at records
      exact records.symm

theorem Turns.delivers (turns : Turns s traces final) (opened : final.closed = false)
    (keyed : s.graph.Keyed) (spares : s.graph.Spares s.graph.drawn final.graph.drawn)
    (knows : s.graph.Knows known final.graph.drawn) :
    s.graph.pending.deletions ++ due known s.graph traces =
      traces.flatMap (·.delivered) ++ final.graph.pending.deletions := by
  induction turns generalizing known with
  | nil => rw [due,List.append_nil]; rfl
  | @cons s final t rest turn onward ih =>
    have still := onward.opened opened
    have first := turn.delivers still keyed knows
    have later := ih opened (turn.keyed keyed) (turn.spares spares)
      (turn.knows still keyed onward.drawn_le spares knows)
    rw [due,← List.append_assoc,first,List.append_assoc,later,List.flatMap_cons,List.append_assoc]

theorem deletions_delivered {snapshot : Snapshot} {settings : Settings} {supply : List String}
    (started : Session.start snapshot settings supply = .ok s) {actions : List Action}
    (editorial : ∀ a ∈ actions, a.editorial = true) (stops : Bool)
    (opened : (s.runAll stops actions).after.closed = false)
    (spares : s.graph.Spares s.graph.drawn (s.runAll stops actions).after.graph.drawn) :
    let course := s.runAll stops actions
    let g := course.after.graph
    course.traces.flatMap (·.delivered) ++ g.pending.deletions =
        due s.graph.committedWires s.graph course.traces ∧
      (∀ e added after, g.apply e = (.ok added,after) →
        after.events.filter Event.removes = (g.gone after).map Removal.event) ∧
      ∀ c ∈ g.components.values, ∀ after, g.remove c.id = (.ok (),after) →
        g.gone after = (g.attached c.id).map .wire ++ [.component c] := by
  obtain ⟨keyed,none,collected⟩ := start_quiet started
  have turns := run_turns keyed editorial stops
  have later := turns.keyed keyed
  refine ⟨?_,fun e added after made => ?_,fun c stored after made => ?_⟩
  · rw [← turns.delivers opened keyed spares (Graph.knows_committed keyed spares),none]
    rfl
  · rcases Graph.apply_cases later e with ⟨f,refused⟩ | ⟨_,_,done,runs⟩
    · rw [refused] at made; cases made
    · rw [done] at made
      cases made
      obtain ⟨news,events,removed⟩ := runs.reported
      rw [events,turns.collected collected,List.nil_append,removed,Graph.apply_gone later runs]
  · have found : (s.runAll stops actions).after.graph.component? c.id = some c :=
      Table.get?_iff.mpr (later.component stored)
    rcases Graph.remove_cases later c.id with ⟨f,refused⟩ | ⟨_,done,runs⟩
    · rw [refused] at made; cases made
    · rw [done] at made
      cases made
      rw [Graph.apply_gone later runs,Graph.changes,found,Option.toList_some,removalsOf_parts]
      rfl

-- A second save, which is taken, and a removal that waits for the next one.
def shiftEvening : List Action :=
  shiftRun ++ [.save true [] false .accept,.step (.editSession (.remove "b"))]

theorem shift_delivered :
    let course := shift.runAll false shiftEvening
    Session.start handover {} = .ok shift ∧ (∀ a ∈ shiftEvening, a.editorial = true) ∧
      course.after.closed = false ∧
      shift.graph.Spares shift.graph.drawn course.after.graph.drawn ∧
      shift.graph.committedWires = ["w"] ∧
      due ["w"] shift.graph course.traces =
        [.wire ⟨"a","b"⟩,.component ⟨"p"⟩,.component ⟨"D"⟩,.wire ⟨"b","id-1"⟩,.component ⟨"B"⟩] ∧
      course.traces.flatMap (·.delivered) ++ course.after.graph.pending.deletions =
        due ["w"] shift.graph course.traces ∧
      course.after.graph.pending.deletions = [.wire ⟨"b","id-1"⟩,.component ⟨"B"⟩] := by
  have started : Session.start handover {} = .ok shift := by decide +kernel
  have editorial : ∀ a ∈ shiftEvening, a.editorial = true := by decide
  have opened : (shift.runAll false shiftEvening).after.closed = false := by decide +kernel
  have spares : shift.graph.Spares shift.graph.drawn
      (shift.runAll false shiftEvening).after.graph.drawn := by decide +kernel
  have known : shift.graph.committedWires = ["w"] := by decide +kernel
  obtain ⟨delivered,_⟩ := deletions_delivered started editorial false opened spares
  rw [known] at delivered
  exact ⟨started,editorial,opened,spares,known,by decide +kernel,delivered,by decide +kernel⟩

end Session

end WireGraph
