import WireGraph.Proofs.Graph.Restore
import WireGraph.Proofs.Session.Course

/-!
# What reaches a registry

Whatever a snapshot holds and whatever is done to the session that it opens, a transaction is sent
only when the wires of its topology end at components of it and do not lead round. Main statement:
this is so for every transaction of a run, those of nested saves included, and a save of an open
session sends exactly one of them whenever nothing holds the graph and its wires do not lead round.
-/

namespace WireGraph
open Relation

-- What a registry can rely on.
structure Topology.Sound (t : Topology) : Prop where
  components : (t.components.map (·.id)).Nodup
  wires : (t.wires.map (·.id)).Nodup
  ends : ∀ w ∈ t.wires,
    w.producer ∈ t.components.map (·.id) ∧ w.consumer ∈ t.components.map (·.id)
  acyclic : ∀ id, ¬TransGen t.Joins id id

namespace Graph
variable {g : Graph}

theorem checkSave_exact (ends : g.WiresEnd) (free : g.locked = false) :
    g.checkSave = .ok () ↔ ∀ id, ¬TransGen g.Joins id id := by
  rw [← not_exists,← tour_exact]
  rcases checkSave_free ends free with ⟨tour,cycle,refused,_⟩ | ⟨none,checked⟩
  · rw [refused]
    exact ⟨fun checked => (nomatch checked),fun none => absurd tour none⟩
  · exact ⟨fun _ => none,fun _ => checked⟩

-- Whatever passes the check of a save is sound, if records are under their ids and wires have ends.
theorem checkSave_sound (keyed : g.Keyed) (ends : g.WiresEnd) (checked : g.checkSave = .ok ()) :
    g.topology.Sound where
  components := (keyed.consistent ends).components
  wires := (keyed.consistent ends).wires
  ends := (keyed.consistent ends).ends
  acyclic := (checkSave_exact ends (checkSave_unlocked checked)).mp checked

end Graph

namespace Session
variable {s : Session} {script : List Action} {stops : Bool} {verdict : Verdict}

-- While the graph is held it stays so and nothing is sent, unless another graph takes its place.
theorem perform_held {a : Action} (lawful : a.every Step.lawful = true)
    (locked : s.graph.locked = true) :
    (s.perform a).after.graph.locked = true ∧ (s.perform a).sent = [] := by
  cases harmless : a.harmless with
  | true =>
    rw [perform_harmless harmless locked]
    exact ⟨locked,perform_unsent harmless locked⟩
  | false =>
    cases a with
    | step step =>
      refine ⟨?_,rfl⟩
      cases step with
      | drain | commit | track | close => exact locked
      | changeComponent | changeWire | reload => cases lawful
      | edit | editSession | create | ask | fail | rest => cases harmless
    | hold | save => cases harmless

theorem runAll_held (lawful : everyIn Step.lawful script = true) (stops : Bool)
    (locked : s.graph.locked = true) : sentAlong (s.runAll stops script).traces = [] := by
  induction script generalizing s with
  | nil => rfl
  | cons a rest ih =>
    obtain ⟨first,others⟩ := (Bool.and_eq_true _ _).mp lawful
    obtain ⟨still,unsent⟩ := perform_held first locked
    rcases s.runAll_cons stops a rest with ⟨f,stopped⟩ | on
    · rw [stopped]
      simp [sentAlong,unsent]
    · rw [on]
      simp [sentAlong,unsent,ih others still]

theorem save_sends {session : Bool} (opened : s.checkSave session = .ok ())
    (checked : s.graph.checkSave = .ok ()) (lawful : everyIn Step.lawful script = true) :
    (s.perform (.save session script stops verdict)).sent = [s.graph.transaction] := by
  have silent := runAll_held (s := { s with graph := s.graph.hold }) lawful stops rfl
  rw [save_begun opened checked,(concludeSave_submitted _ _ _ _ _).2,silent]

theorem sent_sound {snapshot : Snapshot} {settings : Settings} {supply : List String}
    (started : Session.start snapshot settings supply = .ok s) {actions : List Action}
    (lawful : everyIn Step.lawful actions = true) (stops : Bool) :
    let traces := (s.runAll stops actions).traces
    (∀ tx ∈ sentAlong traces, tx.topology.Sound) ∧
      ∀ x ∈ s :: (nodesAlong traces).map (·.after), x.closed = false → x.graph.locked = false →
        (∀ id, ¬TransGen x.graph.topology.Joins id id) →
        ∀ script, everyIn Step.lawful script = true → ∀ stops verdict,
          (x.perform (.save true script stops verdict)).sent = [x.graph.transaction] := by
  have keyed := (start_quiet started).1
  have ends := start_wiresEnd started
  have follows : Follows s false (s.runAll stops actions).traces (s.runAll stops actions).after :=
    runAll_follows keyed actions stops lawful fun no => nomatch no
  refine ⟨fun tx member => ?_,fun x member opened free acyclic script scripted stops verdict => ?_⟩
  · obtain ⟨g,out,passes,checked,rfl⟩ := follows.sent tx member
    exact Graph.checkSave_sound (passes.keyed keyed) (passes.wiresEnd ends) checked
  · obtain ⟨out,passes⟩ := follows.visits member
    exact save_sends (checkOpen_iff.mpr opened)
      ((Graph.checkSave_exact (passes.wiresEnd ends) free).mpr acyclic) scripted

-- A stored graph as it should not be: a component stored twice, a wire to nowhere, a wire stored
-- twice, two wires side by side, one that loops back and two that lead round.
def tangle : Snapshot where
  graph :=
    { components :=
        [{ id := "a", factory := "filter", name := "A", role := .both },
          { id := "b", factory := "filter", name := "B", role := .both },
          { id := "a", pid := "p", factory := "filter", name := "C", role := .both }]
      wires :=
        [⟨"ab","a","b",false⟩,⟨"ba","b","a",true⟩,⟨"bb","b","b",false⟩,⟨"ab","a","b",true⟩,
          ⟨"more","a","b",false⟩,⟨"out","a","z",false⟩] }

-- What the snapshot opens.
def knot : Session := (Session.start tangle {}).toOption.getD {}

-- Three saves, the first two before the wires that lead round are gone.
def untying : List Action :=
  [.save true meddling false .accept,.step (.editSession (.disconnect "ba")),
    .save true meddling false .accept,.step (.editSession (.disconnect "bb")),
    .save true (.step .close :: meddling) false (.refuse (.crashed "down"))]

theorem knot_sends :
    let traces := (knot.runAll false untying).traces
    let untied := (knot.runAll false (untying.take 4)).after
    Session.start tangle {} = .ok knot ∧ everyIn Step.lawful untying = true ∧
      traces.map (·.sent) = [[],[],[],[],[untied.graph.transaction]] ∧
      untied.graph.topology.wires = [⟨"ab","a","b",true⟩,⟨"more","a","b",false⟩] ∧
      untied.graph.topology.Sound ∧
      (untied.perform (.save true meddling true .accept)).sent = [untied.graph.transaction] := by
  have started : Session.start tangle {} = .ok knot := by decide +kernel
  have lawful : everyIn Step.lawful untying = true := by decide
  have sent : (knot.runAll false untying).traces.map (·.sent) =
      [[],[],[],[],[(knot.runAll false (untying.take 4)).after.graph.transaction]] := by
    decide +kernel
  obtain ⟨sound,hands⟩ := sent_sound started lawful false
  have untied := sound (knot.runAll false (untying.take 4)).after.graph.transaction (by decide +kernel)
  refine ⟨started,lawful,sent,by decide +kernel,untied,?_⟩
  refine hands _ ?_ (by decide +kernel) (by decide +kernel) untied.acyclic meddling (by decide) _ _
  decide +kernel

end Session

end WireGraph
