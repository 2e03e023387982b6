import Mathlib.Data.List.Basic
import WireGraph.Proofs.Graph.Removal
import WireGraph.Proofs.Session.Run

/-!
# What a save registers

An accepted save gives every component that had no pid its name as pid, and makes every wire one that
the registry knows. Main statement: afterwards a component that is removed leaves a record for each
wire at it, in order, and one for itself, with one exception that the statement makes exact: the pid
that stands for none can also be a name, and a component of that name stays unregistered.
-/

namespace WireGraph

theorem Component.committed_eq (c : Component) :
    c.committed = { c with pid := if c.pid = unregisteredPid then c.name else c.pid } := by
  cases registered : c.registered with
  | true =>
    rw [committed_registered registered,if_neg (registered_iff.mp registered)]
  | false =>
    rw [committed,if_neg (by simp [registered]),if_pos (unregistered_iff.mp registered)]

-- Only a component that is called like the pid that stands for none can miss being registered.
theorem Component.committed_unregistered (c : Component) :
    c.committed.registered = false ↔ c.pid = unregisteredPid ∧ c.name = unregisteredPid := by
  rw [unregistered_iff]
  cases registered : c.registered with
  | true =>
    have real := registered_iff.mp registered
    rw [committed_registered registered]
    exact ⟨fun none => absurd none real,fun none => absurd none.1 real⟩
  | false =>
    rw [committed_pid registered]
    exact ⟨fun same => ⟨unregistered_iff.mp registered,same⟩,And.right⟩

namespace Graph
variable {g : Graph} {c : Component}

-- With nothing pending and every wire known, a component that goes leaves a record for each wire at
-- it and then its own.
theorem remove_records (keyed : g.Keyed) (free : g.locked = false) (none : g.pending = {})
    (known : ∀ w ∈ g.wires.values, w.fresh = false) (stored : c ∈ g.components.values) :
    ∃ cut, g.remove c.id = (.ok (),cut) ∧
      cut.pending.deletions = (g.attached c.id).map (fun w => .wire ⟨w.producer,w.consumer⟩) ++
        c.deletion?.toList := by
  have wires : (g.attached c.id).filterMap (·.deletion?) =
      (g.attached c.id).map fun w => .wire ⟨w.producer,w.consumer⟩ := by
    rw [wire_deletions,List.filter_eq_self.mpr fun w member => ?_]
    rw [known w (List.mem_filter.mp member).1]
    rfl
  refine ⟨_,(remove_runs keyed free stored).1,?_⟩
  change (g.pending.deletions ++ (g.attached c.id).filterMap (·.deletion?)) ++
    [c].filterMap (·.deletion?) = _
  rw [none,wires]
  cases record : c.deletion? <;> simp [record]

end Graph

namespace Session
variable {s : Session} {t : Trace}

theorem Settles.components_eq (settles : Settles s t) :
    t.after.graph.components.values = s.graph.components.values.map fun c =>
      { c with pid := if c.pid = unregisteredPid then c.name else c.pid } := by
  rw [settles.components,Table.values_mapValues]
  exact List.map_congr_left fun c _ => c.committed_eq

theorem Settles.registered_iff (settles : Settles s t) :
    (∀ c ∈ t.after.graph.components.values, c.registered = true) ↔
      ∀ c ∈ s.graph.components.values, c.pid = unregisteredPid → c.name ≠ unregisteredPid := by
  rw [settles.components,Table.values_mapValues,List.forall_mem_map]
  refine forall₂_congr fun c _ => ?_
  rw [← Bool.not_eq_false,c.committed_unregistered,not_and]

-- The graph and the session remove alike as long as the session is open.
theorem edit_remove {id : String} {cut : Graph} (opened : s.closed = false)
    (made : s.graph.remove id = (.ok (),cut)) :
    s.edit (.remove id) = (.ok none,touch { s with graph := cut }) := by
  simp [edit,checkOpen_iff.mpr opened,Graph.apply,made,Except.map]

theorem accepted_registers {snapshot : Snapshot} {settings : Settings} {supply : List String}
    (started : Session.start snapshot settings supply = .ok s) {actions : List Action}
    (editorial : ∀ a ∈ actions, a.editorial = true) (stops : Bool) {earlier later : List Trace}
    (run : (s.runAll stops actions).traces = earlier ++ t :: later) (accepted : t.accepted = true) :
    let before := (s.reached earlier).graph
    let g := t.after.graph
    g.components.values = before.components.values.map (fun c =>
        { c with pid := if c.pid = unregisteredPid then c.name else c.pid }) ∧
      g.wires.values = before.wires.values.map (fun w => { w with fresh := false }) ∧
      ((∀ c ∈ g.components.values, c.registered = true) ↔
        ∀ c ∈ before.components.values, c.pid = unregisteredPid → c.name ≠ unregisteredPid) ∧
      ∀ c ∈ g.components.values, ∃ cut, g.remove c.id = (.ok (),cut) ∧
        cut.pending.deletions = (g.attached c.id).map (fun w => .wire ⟨w.producer,w.consumer⟩) ++
          (if c.registered then [.component ⟨c.pid⟩] else []) ∧
        (t.after.closed = false →
          t.after.edit (.remove c.id) = (.ok none,touch { t.after with graph := cut })) := by
  have keyed := (start_quiet started).1
  have turns := run_turns keyed editorial stops
  rw [run] at turns
  obtain ⟨before,onward⟩ := turns.split
  obtain _ | ⟨turn,_⟩ := onward
  have settles := turn.settles accepted
  refine ⟨settles.components_eq,settles.wires_eq,settles.registered_iff,fun c stored => ?_⟩
  obtain ⟨cut,made,records⟩ := Graph.remove_records (turn.keyed (before.keyed keyed))
    settles.unlocked settles.pending settles.known stored
  refine ⟨cut,made,?_,fun opened => edit_remove opened made⟩
  rw [records,Component.deletion?]
  cases c.registered <;> rfl

-- The accepted save of the run.
def shiftSave : Trace :=
  (shift.runAll false (shiftRun.take 2)).after.perform
    (.save true [.step (.editSession .clear)] false .accept)

theorem shift_registers :
    let g := shiftSave.after.graph
    Session.start handover {} = .ok shift ∧
      (shift.runAll false shiftRun).traces = (shift.runAll false (shiftRun.take 2)).traces ++
        shiftSave :: (shiftSave.after.runAll false (shiftRun.drop 3)).traces ∧
      shiftSave.accepted = true ∧
      g.components.values.map (·.pid) = ["p","B","q","D"] ∧
      (∀ c ∈ g.components.values, c.registered = true) ∧
      ∃ cut, g.remove "b" = (.ok (),cut) ∧
        cut.pending.deletions = [.wire ⟨"a","b"⟩,.wire ⟨"b","id-1"⟩,.component ⟨"B"⟩] := by
  have started : Session.start handover {} = .ok shift := by decide +kernel
  have run : (shift.runAll false shiftRun).traces = (shift.runAll false (shiftRun.take 2)).traces ++
      shiftSave :: (shiftSave.after.runAll false (shiftRun.drop 3)).traces := rfl
  have accepted : shiftSave.accepted = true := by decide +kernel
  have pids : shiftSave.after.graph.components.values.map (·.pid) = ["p","B","q","D"] := by
    decide +kernel
  obtain ⟨_,_,registers,removes⟩ := accepted_registers started (by decide) false run accepted
  have registered := registers.mpr (by decide +kernel)
  obtain ⟨cut,made,records,_⟩ := removes
    { id := "b", pid := "B", factory := "filter", name := "B", role := .both } (by decide +kernel)
  refine ⟨started,run,accepted,pids,registered,cut,made,records.trans ?_⟩
  decide +kernel

-- An order for a component that is called like the pid that stands for none, and a save.
def nobody : Session := (Session.start {} {}).toOption.getD {}
def nobodyRun : List Action :=
  [.step (.create (.ok { factory := "timer", name := "none" })),.save true [] false .accept]

theorem nobody_unregistered :
    let x := (nobody.runAll false nobodyRun).after
    Session.start {} {} = .ok nobody ∧ (∀ a ∈ nobodyRun, a.editorial = true) ∧
      (nobody.runAll false nobodyRun).traces.map (·.accepted) = [false,true] ∧
      x.graph.components.values.map (fun c => (c.id,c.pid)) = [("id-1",unregisteredPid)] ∧
      (x.edit (.remove "id-1")).1 = .ok none ∧
      (x.edit (.remove "id-1")).2.graph.pending.deletions = [] := by
  decide +kernel

end Session

end WireGraph
