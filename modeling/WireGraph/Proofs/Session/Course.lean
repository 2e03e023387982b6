import WireGraph.Proofs.Graph.Restore
import WireGraph.Proofs.Session.Submission

/-!
# What a script does to the graph

A script may nest blocks and saves to any depth, and a registry may run a script of its own. Main
statement: as long as no record is changed by hand and the graph stays the one it was, everything
that any of them does is a sequence of the things that can happen to a graph. This holds for the
script as a whole, for every point at which one of its actions ends, and for every point at which a
transaction is sent. Where only the script itself collects events, what it collects is read off the
answers. And a session has fresh ids to draw when its supply never repeats itself and states no id of
the snapshot that it was opened with.
-/

namespace WireGraph

mutual

-- Every step of an action is one of `p`, those of the scripts inside it included.
def Action.every (p : Step → Bool) : Action → Bool
  | .step step => p step
  | .hold script _ => everyIn p script
  | .save _ script _ _ => everyIn p script

def everyIn (p : Step → Bool) : List Action → Bool
  | [] => true
  | a :: rest => a.every p && everyIn p rest

end

-- What leaves the records as they are, as far as it does not add or remove them, and the graph in
-- its place.
def Step.lawful : Step → Bool
  | .changeComponent _ _ | .changeWire _ _ | .reload _ => false
  | _ => true

-- What concerns the graph alone. A session collects the events of its own edits and tells nobody.
def Step.plain : Step → Bool
  | .edit _ | .ask _ | .drain | .commit | .track _ | .fail _ | .rest => true
  | _ => false

theorem Step.plain_lawful {step : Step} (plain : step.plain = true) : step.lawful = true := by
  cases step with
  | changeComponent | changeWire | reload => cases plain
  | _ => rfl

mutual

theorem Action.every_mono {p q : Step → Bool} (weaker : ∀ {step}, p step = true → q step = true)
    (a : Action) (holds : a.every p = true) : a.every q = true := by
  cases a with
  | step step => exact weaker holds
  | hold script stops => exact everyIn_mono weaker script holds
  | save session script stops verdict => exact everyIn_mono weaker script holds

theorem everyIn_mono {p q : Step → Bool} (weaker : ∀ {step}, p step = true → q step = true)
    (script : List Action) (holds : everyIn p script = true) : everyIn q script = true := by
  cases script with
  | nil => rfl
  | cons a rest =>
    obtain ⟨first,others⟩ := (Bool.and_eq_true _ _).mp holds
    exact (Bool.and_eq_true _ _).mpr
      ⟨Action.every_mono weaker a first,everyIn_mono weaker rest others⟩

end

mutual

-- The actions that left a trace, in the order in which they ended.
def Trace.nodes : Trace → List Trace
  | ⟨outcome,submitted,inner,written,after⟩ =>
    nodesInside inner ++ [⟨outcome,submitted,inner,written,after⟩]

def nodesInside : Option (List Trace) → List Trace
  | none => []
  | some traces => nodesAlong traces

def nodesAlong : List Trace → List Trace
  | [] => []
  | t :: rest => t.nodes ++ nodesAlong rest

end

-- The events that an action answered with.
def Trace.collected (t : Trace) : List Event :=
  match t.outcome with
  | .ok (.events happened) => happened
  | _ => []

-- All events that were collected in the course of some actions.
def collectedAlong (traces : List Trace) : List Event := (nodesAlong traces).flatMap (·.collected)

namespace Session
open WireGraph.Graph (Passes Happens)

variable {s final : Session} {t : Trace} {traces rest : List Trace} {plain : Bool}

-- What is said of a script: it takes the graph along a passage, whose events are those that were
-- collected if the script is plain; and so it does up to the end of each action and up to each save.
structure Follows (s : Session) (plain : Bool) (traces : List Trace) (final : Session) : Prop where
  passes : ∃ out, s.graph.Passes out final.graph ∧ (plain = true → out = collectedAlong traces)
  ended : ∀ t ∈ nodesAlong traces, ∃ out, s.graph.Passes out t.after.graph
  sent : ∀ tx ∈ sentAlong traces, ∃ g out,
    s.graph.Passes out g ∧ g.checkSave = .ok () ∧ tx = g.transaction

theorem collectedAlong_cons (t : Trace) (rest : List Trace) :
    collectedAlong (t :: rest) = collectedAlong [t] ++ collectedAlong rest := by
  simp [collectedAlong,nodesAlong]

theorem Follows.nil (s : Session) (plain : Bool) : Follows s plain [] s where
  passes := ⟨[],.nil,fun _ => rfl⟩
  ended := fun _ none => by cases none
  sent := fun _ none => by cases none

theorem Follows.cons (here : Follows s plain [t] t.after)
    (onward : Follows t.after plain rest final) : Follows s plain (t :: rest) final := by
  obtain ⟨first,before,collected⟩ := here.passes
  refine ⟨?_,fun u member => ?_,fun tx member => ?_⟩
  · obtain ⟨later,after,more⟩ := onward.passes
    refine ⟨first ++ later,before.append after,fun quiet => ?_⟩
    rw [collected quiet,more quiet,← collectedAlong_cons]
  · rw [nodesAlong] at member
    rcases List.mem_append.mp member with inside | later
    · exact here.ended u (by simpa [nodesAlong] using inside)
    · obtain ⟨out,passes⟩ := onward.ended u later
      exact ⟨_,before.append passes⟩
  · rw [sentAlong] at member
    rcases List.mem_append.mp member with inside | later
    · exact here.sent tx (by simpa [sentAlong] using inside)
    · obtain ⟨g,out,passes,checked,same⟩ := onward.sent tx later
      exact ⟨g,_,before.append passes,checked,same⟩

-- The session at the start and after each of the actions.
theorem Follows.visits (follows : Follows s plain traces final) {x : Session}
    (member : x ∈ s :: (nodesAlong traces).map (·.after)) : ∃ out, s.graph.Passes out x.graph := by
  rcases List.mem_cons.mp member with rfl | later
  · exact ⟨[],.nil⟩
  · obtain ⟨t,ended,rfl⟩ := List.mem_map.mp later
    exact follows.ended t ended

-- An action without a script in it.
theorem Follows.single {out : List Event} {outcome : Except Fault Answer} {inner : Option (List Trace)}
    (bare : nodesInside inner = [] ∧ sentInside inner = []) (passes : s.graph.Passes out final.graph)
    (collected : plain = true → out = Trace.collected { outcome, inner, after := final }) :
    Follows s plain [{ outcome, inner, after := final }] final := by
  obtain ⟨unended,unsent⟩ := bare
  refine ⟨⟨out,passes,fun quiet => ?_⟩,fun t member => ?_,fun tx member => ?_⟩
  · rw [collected quiet]
    simp [collectedAlong,nodesAlong,Trace.nodes,unended]
  · obtain rfl : t = { outcome, inner, after := final } := by
      simpa [nodesAlong,Trace.nodes,unended] using member
    exact ⟨out,passes⟩
  · simp [sentAlong,Trace.sent,unsent] at member

-- An action that is refused.
theorem Follows.refused (s : Session) (plain : Bool) (f : Fault) {inner : Option (List Trace)}
    (bare : nodesInside inner = [] ∧ sentInside inner = []) :
    Follows s plain [{ outcome := .error f, inner, after := s }] s :=
  .single bare .nil fun _ => rfl

theorem ask_collects (s : Session) (q : Question) :
    Trace.collected { outcome := s.answer q, after := s } = [] := by
  unfold Trace.collected
  split
  · rename_i happened answered
    exact absurd answered ((s.answer_bare q).2 happened)
  · rfl

theorem edit_passes (keyed : s.graph.Keyed) (e : Edit) :
    ∃ out, s.graph.Passes out (s.edit e).2.graph := by
  rcases edit_cases keyed e with ⟨f,refused⟩ | ⟨added,graph,made,_,runs⟩
  · rw [refused]
    exact ⟨_,.nil⟩
  · rw [made]
    exact ⟨_,runs.passes.append Happens.drained.passes⟩

theorem step_follows (keyed : s.graph.Keyed) {step : Step} (lawful : step.lawful = true)
    (quiet : plain = true → step.plain = true) :
    Follows s plain [s.perform (.step step)] (s.perform (.step step)).after := by
  -- What a session does on its own is not plain, so nothing is said of what it collects.
  have loud (other : step.plain = false) {out : List Event}
      (passes : s.graph.Passes out (s.step step).2.graph) :
      Follows s plain [s.perform (.step step)] (s.perform (.step step)).after := by
    rw [perform]
    exact .single ⟨rfl,rfl⟩ passes fun asked => by rw [quiet asked] at other; cases other
  cases step with
  | edit e =>
    rw [perform]
    rcases Graph.apply_cases keyed e with ⟨f,refused⟩ | ⟨added,graph,made,runs⟩
    · rw [step,withEdited,refused]
      exact .refused s plain f ⟨rfl,rfl⟩
    · rw [step,withEdited,made]
      exact .single ⟨rfl,rfl⟩ runs.passes fun _ => by cases added <;> rfl
  | ask q =>
    rw [perform]
    exact .single ⟨rfl,rfl⟩ .nil fun _ => (s.ask_collects q).symm
  | drain =>
    rw [perform]
    exact .single ⟨rfl,rfl⟩ Happens.drained.passes fun _ => rfl
  | commit =>
    rw [perform]
    exact .single ⟨rfl,rfl⟩ Happens.committed.passes fun _ => rfl
  | track change =>
    rw [perform]
    exact .single ⟨rfl,rfl⟩ (Happens.noted _).passes fun _ => by cases change <;> rfl
  | fail f => rw [perform]; exact .refused s plain f ⟨rfl,rfl⟩
  | rest => rw [perform]; exact .single ⟨rfl,rfl⟩ .nil fun _ => rfl
  | editSession e =>
    obtain ⟨out,passes⟩ := edit_passes keyed e
    exact loud rfl passes
  | create order =>
    rcases s.create_cases order with ⟨f,refused⟩ | ⟨e,_,same⟩
    · rw [perform,refused]
      exact .refused s plain f ⟨rfl,rfl⟩
    · obtain ⟨out,passes⟩ := edit_passes keyed e
      exact loud rfl (by rw [same]; exact passes)
  | close => exact loud rfl ((Happens.noted _).passes.append Happens.drained.passes)
  | changeComponent => cases lawful
  | changeWire => cases lawful
  | reload => cases lawful

-- A script that ran while the graph was held, and what came of the action around it.
theorem Follows.around {held : Session} {ts : List Trace} {t : Trace}
    (inside : Follows held plain ts final) (inner : t.inner = some ts) (silent : t.collected = [])
    (taken : s.graph.Passes [] held.graph) (given : final.graph.Passes [] t.after.graph)
    (sent : ∀ tx ∈ t.submitted, s.graph.checkSave = .ok () ∧ tx = s.graph.transaction) :
    Follows s plain [t] t.after := by
  obtain ⟨outcome,submitted,_,written,after⟩ := t
  obtain rfl := inner
  refine ⟨?_,fun u member => ?_,fun tx member => ?_⟩
  · obtain ⟨out,passes,collected⟩ := inside.passes
    refine ⟨out,by simpa using (taken.append passes).append given,fun asked => ?_⟩
    rw [collected asked]
    simp [collectedAlong,nodesAlong,nodesInside,Trace.nodes,silent]
  · simp only [nodesAlong,Trace.nodes,nodesInside,List.append_nil,List.mem_append,
      List.mem_singleton] at member
    rcases member with ended | rfl
    · obtain ⟨out,passes⟩ := inside.ended u ended
      exact ⟨out,taken.append passes⟩
    · obtain ⟨out,passes,_⟩ := inside.passes
      exact ⟨_,(taken.append passes).append given⟩
  · simp only [sentAlong,Trace.sent,sentInside,List.append_nil,List.mem_append,
      Option.mem_toList] at member
    rcases member with here | nested
    · obtain ⟨checked,same⟩ := sent tx here
      exact ⟨s.graph,[],.nil,checked,same⟩
    · obtain ⟨g,out,passes,checked,same⟩ := inside.sent tx nested
      exact ⟨g,out,taken.append passes,checked,same⟩

theorem giveBack_passes (earlier s : Session) : s.graph.Passes [] (earlier.giveBack s).graph := by
  unfold giveBack
  split
  · exact (Happens.barred false).passes
  · exact .nil

theorem endSave_passes (earlier s : Session) (accepted : Bool) :
    s.graph.Passes [] (earlier.endSave accepted s).graph := by
  unfold endSave
  dsimp only
  split
  · exact ((Happens.noted s.graph.pending.settle).passes.then .committed).append
      (giveBack_passes earlier { s with graph := s.graph.settle })
  · exact giveBack_passes _ _

theorem concludeHold_follows {course : Course}
    (inside : Follows { s with graph := s.graph.hold } plain course.traces course.after) :
    Follows s plain [s.concludeHold course] (s.concludeHold course).after := by
  refine inside.around rfl ?_ (Happens.barred true).passes (giveBack_passes _ _) fun _ none => by
    cases none
  cases stop : course.stop <;> simp [concludeHold,Trace.collected,stop]

theorem concludeSave_follows {course : Course} (session : Bool)
    (ruled : Except Fault (Option String)) (checked : s.graph.checkSave = .ok ())
    (inside : Follows { s with graph := s.graph.hold } plain course.traces course.after) :
    let t := s.concludeSave session s.graph.transaction course ruled
    Follows s plain [t] t.after := by
  intro t
  have sent : ∀ tx ∈ t.submitted, s.graph.checkSave = .ok () ∧ tx = s.graph.transaction := by
    cases ruled <;> exact fun tx here => ⟨checked,(Option.some.inj here).symm⟩
  cases ruled with
  | error f =>
    exact inside.around rfl rfl (Happens.barred true).passes (endSave_passes _ _ _) sent
  | ok written =>
    refine inside.around rfl rfl (Happens.barred true).passes ?_ sent
    cases session <;> exact endSave_passes _ _ _

mutual

theorem perform_follows {s : Session} (keyed : s.graph.Keyed) (a : Action)
    (lawful : a.every Step.lawful = true) (quiet : plain = true → a.every Step.plain = true) :
    Follows s plain [s.perform a] (s.perform a).after := by
  cases a with
  | step step => exact step_follows keyed lawful quiet
  | hold script stops =>
    rw [perform]
    split
    · exact .refused s plain _ ⟨rfl,rfl⟩
    · rename_i begun
      obtain ⟨_,rfl⟩ := beginHold_held begun
      exact concludeHold_follows
        (runAll_follows (s := { s with graph := s.graph.hold })
          ⟨keyed.components,keyed.wires⟩ script stops lawful quiet)
  | save session script stops verdict =>
    rw [perform]
    split
    · exact .refused s plain _ ⟨rfl,rfl⟩
    · unfold beginSave
      cases checked : s.graph.checkSave with
      | error f => exact .refused s plain f ⟨rfl,rfl⟩
      | ok _ =>
        exact concludeSave_follows session _ checked
          (runAll_follows (s := { s with graph := s.graph.hold })
            ⟨keyed.components,keyed.wires⟩ script stops lawful quiet)

theorem runAll_follows {s : Session} (keyed : s.graph.Keyed) (script : List Action) (stops : Bool)
    (lawful : everyIn Step.lawful script = true)
    (quiet : plain = true → everyIn Step.plain script = true) :
    Follows s plain (s.runAll stops script).traces (s.runAll stops script).after := by
  cases script with
  | nil => exact .nil s plain
  | cons a rest =>
    simp only [everyIn,Bool.and_eq_true] at lawful quiet
    have here := perform_follows keyed a lawful.1 fun asked => (quiet asked).1
    rcases s.runAll_cons stops a rest with ⟨f,stopped⟩ | on
    · rw [stopped]
      exact here
    · rw [on]
      obtain ⟨out,passes,_⟩ := here.passes
      exact here.cons (runAll_follows (passes.keyed keyed) rest stops lawful.2 fun asked =>
        (quiet asked).2)

end

-- What a snapshot opens is the stored graph after a passage: each registration is reconciled.
theorem start_passes {snapshot : Snapshot} {settings : Settings} {supply : List String}
    (started : Session.start snapshot settings supply = .ok s) :
    ∃ out, (Graph.restore snapshot.graph settings.driverFactories 0 supply).Passes out s.graph := by
  obtain ⟨grown,done,rfl⟩ := start_parts started
  have passes : (Graph.restore snapshot.graph settings.driverFactories 0 supply).Passes [] grown :=
    reconcile_preserves (P := fun g => Graph.Passes _ [] g)
      (fun _ _ move before => before.then (.moved move)) done .nil
  exact ⟨_,passes.append Happens.drained.passes⟩

theorem start_wiresEnd {snapshot : Snapshot} {settings : Settings} {supply : List String}
    (started : Session.start snapshot settings supply = .ok s) : s.graph.WiresEnd := by
  obtain ⟨out,passes⟩ := start_passes started
  exact passes.wiresEnd (Graph.restore_wiresEnd _ _ _ _)

-- A session has fresh ids to draw when its supply never repeats itself and states no id of the
-- snapshot.
theorem start_spares {snapshot : Snapshot} {settings : Settings} {supply : List String}
    (started : Session.start snapshot settings supply = .ok s) (distinct : supply.Nodup)
    (unused : ∀ id ∈ supply, id ∉ snapshot.graph.components.map (·.id) ∧
      id ∉ snapshot.graph.wires.map (·.id)) : s.graph.Spares s.graph.drawn supply.length := by
  obtain ⟨out,passes⟩ := start_passes started
  refine passes.spares (Graph.spares_stated (g := Graph.restore _ _ 0 supply) distinct ?_ 0)
  intro id drawn
  obtain ⟨component,wire⟩ := unused id drawn
  refine ⟨fun taken => component ?_,fun taken => wire ?_⟩
  · change id ∈ (Graph.restoredComponents snapshot.graph).keys at taken
    rwa [Graph.restoredComponents,Table.keys_ofList,List.mem_eraseDups] at taken
  · change id ∈ (Graph.restoredWires _ snapshot.graph.wires).keys at taken
    rw [Graph.restoredWires,Table.keys_ofList,List.mem_eraseDups] at taken
    exact List.map_subset _ (List.filter_subset_self _) taken

example : (Session.start handover {} ["9f1c","77ab"]).toOption.map (·.graph.components.keys) =
    some ["a","b","9f1c"] := by decide +kernel

end Session

end WireGraph
