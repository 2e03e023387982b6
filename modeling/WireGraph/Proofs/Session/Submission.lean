import WireGraph.Proofs.Cycle.Trail
import WireGraph.Proofs.Session.Commit

/-!
# All or nothing

What one save of a graph comes to, whatever the registry does with the graph while it looks at the
transaction: edits, blocks under the lock and saves of its own, all of them refused by the lock. Main
statement: a save that may not begin sends nothing; one that may sends one transaction, and the graph
is settled as a whole if the registry takes it and left as it was if not.
-/

namespace WireGraph

mutual

-- The transactions that reached a registry in the course of an action, those of its script included.
def Trace.sent : Trace → List Transaction
  | ⟨_,submitted,inner,_,_⟩ => submitted.toList ++ sentInside inner

def sentInside : Option (List Trace) → List Transaction
  | none => []
  | some traces => sentAlong traces

def sentAlong : List Trace → List Transaction
  | [] => []
  | t :: rest => t.sent ++ sentAlong rest

end

namespace Graph
variable {g : Graph}

theorem checkSave_locked (locked : g.locked = true) : g.checkSave = .error .saveInProgress :=
  if_pos locked

-- A graph that no save holds can be saved unless its wires lead round.
theorem checkSave_free (ends : g.WiresEnd) (free : g.locked = false) :
    (∃ wires, g.Tour wires) ∧ (∃ cycle, g.checkSave = .error (.cyclic cycle) ∧ g.Circuit cycle) ∨
      (¬ ∃ wires, g.Tour wires) ∧ g.checkSave = .ok () := by
  obtain ⟨found,answered⟩ := answers ends
  have round := answer_exact answered
  rw [← tour_exact] at round
  cases found with
  | true =>
    have refused : g.checkSave = .error (.cyclic (g.findCycle.getD [])) := by
      rw [checkSave,if_neg (by simp [free]),answered]
    exact .inl ⟨round.mp rfl,_,refused,checkSave_cyclic refused⟩
  | false =>
    have checked : g.checkSave = .ok () := by
      rw [checkSave,if_neg (by simp [free]),answered]
    exact .inr ⟨fun tour => Bool.noConfusion (round.mpr tour),checked⟩

end Graph

namespace Session
variable {s : Session} {script : List Action} {stops : Bool} {verdict : Verdict}

-- Nothing that meets the lock reaches a registry.
theorem perform_unsent {a : Action} (harmless : a.harmless = true)
    (locked : s.graph.locked = true) : (s.perform a).sent = [] := by
  cases a with
  | step step => rfl
  | hold script stops =>
    simp [perform,beginHold,Graph.checkUnlocked,locked,Trace.sent,sentInside,sentAlong]
  | save session script stops verdict =>
    rw [perform]
    split
    · rfl
    · simp [beginSave,Graph.checkSave_locked locked,Trace.sent,sentInside]

-- A script none of whose actions changes anything or sends anything does neither.
theorem runAll_still (still : ∀ a ∈ script, (s.perform a).after = s ∧ (s.perform a).sent = [])
    (stops : Bool) :
    (s.runAll stops script).after = s ∧ sentAlong (s.runAll stops script).traces = [] := by
  induction script with
  | nil => exact ⟨rfl,rfl⟩
  | cons a rest ih =>
    obtain ⟨⟨here,unsent⟩,others⟩ := List.forall_mem_cons.mp still
    rcases s.runAll_cons stops a rest with ⟨f,stopped⟩ | on
    · rw [stopped]
      exact ⟨here,by simp [sentAlong,unsent]⟩
    · obtain ⟨after,quiet⟩ := ih others
      rw [on,here]
      exact ⟨after,by simp [sentAlong,unsent,quiet]⟩

theorem runAll_harmless (harmless : script.all Action.harmless = true)
    (locked : s.graph.locked = true) :
    (s.runAll stops script).after = s ∧ sentAlong (s.runAll stops script).traces = [] := by
  refine runAll_still (fun a member => ?_) stops
  have here : a.harmless = true := List.all_eq_true.mp harmless a member
  exact ⟨perform_harmless here locked,perform_unsent here locked⟩

-- What a registry rules that runs a script on the locked graph first.
def ruled (s : Session) (script : List Action) (stops : Bool) (verdict : Verdict) :
    Except Fault (Option String) :=
  ruling ({ s with graph := s.graph.hold }.runAll stops script).stop verdict s.graph.transaction

-- A registry that catches every fault of its script rules as it likes.
theorem runAll_caught (s : Session) (script : List Action) :
    (s.runAll false script).stop = none := by
  induction script generalizing s with
  | nil => rfl
  | cons a rest ih => simpa [runAll] using ih _

theorem save_refused {f : Fault} (refused : s.graph.checkSave = .error f) :
    s.perform (.save false script stops verdict) = { outcome := .error f, after := s } := by
  simp [perform,checkSave,beginSave,refused]

theorem save_begun {session : Bool} (opened : s.checkSave session = .ok ())
    (checked : s.graph.checkSave = .ok ()) :
    s.perform (.save session script stops verdict) =
      s.concludeSave session s.graph.transaction
        ({ s with graph := s.graph.hold }.runAll stops script) (s.ruled script stops verdict) := by
  simp [perform,opened,beginSave,checked,ruled]

theorem save_called {session : Bool} (opened : s.checkSave session = .ok ())
    (checked : s.graph.checkSave = .ok ()) :
    (s.perform (.save session script stops verdict)).inner =
      some ({ s with graph := s.graph.hold }.runAll stops script).traces := by
  rw [save_begun opened checked]
  cases s.ruled script stops verdict <;> rfl

-- A registry is called only by a save that was admitted.
theorem save_admitted {session : Bool} {traces : List Trace}
    (called : (s.perform (.save session script stops verdict)).inner = some traces) :
    s.checkSave session = .ok () ∧ s.graph.checkSave = .ok () := by
  cases opened : s.checkSave session with
  | error f => simp [perform,opened] at called
  | ok _ =>
    cases checked : s.graph.checkSave with
    | error f => simp [perform,opened,beginSave,checked] at called
    | ok _ => exact ⟨rfl,rfl⟩

theorem concludeSave_submitted (s : Session) (session : Bool) (tx : Transaction) (course : Course)
    (answer : Except Fault (Option String)) :
    (s.concludeSave session tx course answer).submitted = some tx ∧
      (s.concludeSave session tx course answer).sent = tx :: sentAlong course.traces := by
  cases answer <;> exact ⟨rfl,rfl⟩

theorem save_failed {f : Fault} (harmless : script.all Action.harmless = true)
    (checked : s.graph.checkSave = .ok ()) (raised : s.ruled script stops verdict = .error f) :
    (s.perform (.save false script stops verdict)).outcome = .error f ∧
      (s.perform (.save false script stops verdict)).after = s := by
  rw [save_begun rfl checked,raised]
  refine ⟨rfl,?_⟩
  change s.giveBack ({ s with graph := s.graph.hold }.runAll stops script).after = s
  rw [(runAll_harmless harmless rfl).1]
  exact (giveBack_hold (Graph.checkSave_unlocked checked)).1

theorem save_taken {written : Option String} (harmless : script.all Action.harmless = true)
    (checked : s.graph.checkSave = .ok ()) (took : s.ruled script stops verdict = .ok written) :
    (s.perform (.save false script stops verdict)).outcome = .ok (.transaction s.graph.transaction) ∧
      (s.perform (.save false script stops verdict)).after = { s with graph := s.graph.settle } := by
  rw [save_begun rfl checked,took]
  refine ⟨rfl,?_⟩
  change s.endSave true ({ s with graph := s.graph.hold }.runAll stops script).after = _
  rw [(runAll_harmless harmless rfl).1]
  exact endSave_settles (Graph.checkSave_unlocked checked)

theorem save_all_or_nothing (s : Session) (ends : s.graph.WiresEnd)
    (harmless : script.all Action.harmless = true) (stops : Bool) (verdict : Verdict) :
    let g := s.graph
    let t := s.perform (.save false script stops verdict)
    let tx : Transaction := ⟨⟨g.components.values,g.wires.values⟩,g.pending.deletions⟩
    (g.locked = true → t.outcome = .error .saveInProgress ∧ t.sent = [] ∧ t.after = s) ∧
      (g.locked = false → (∃ wires, g.Tour wires) →
        (∃ cycle, t.outcome = .error (.cyclic cycle) ∧ g.Circuit cycle) ∧ t.sent = [] ∧
          t.after = s) ∧
      (g.locked = false → (¬ ∃ wires, g.Tour wires) →
        t.sent = [tx] ∧ (stops = false → s.ruled script stops verdict = verdict.rule tx) ∧
          (∀ f, s.ruled script stops verdict = .error f →
            t.outcome = .error f ∧ t.after = s ∧ ∀ script' stops' verdict',
              (t.after.perform (.save false script' stops' verdict')).submitted = some tx) ∧
          ∀ written, s.ruled script stops verdict = .ok written →
            t.outcome = .ok (.transaction tx) ∧
              t.after = { s with graph := { g with
                components := g.components.mapValues fun c =>
                  { c with pid := if c.pid = unregisteredPid then c.name else c.pid }
                wires := g.wires.mapValues fun w => { w with fresh := false }
                pending := {} } }) := by
  refine ⟨fun locked => ?_,fun free tour => ?_,fun free none => ?_⟩
  · have refused := Graph.checkSave_locked locked
    rw [save_refused refused]
    exact ⟨rfl,rfl,rfl⟩
  · rcases Graph.checkSave_free ends free with ⟨_,cycle,refused,circuit⟩ | ⟨none,_⟩
    · rw [save_refused refused]
      exact ⟨⟨cycle,rfl,circuit⟩,rfl,rfl⟩
    · exact absurd tour none
  · rcases Graph.checkSave_free ends free with ⟨tour,_⟩ | ⟨_,checked⟩
    · exact absurd tour none
    · refine ⟨?_,?_,fun f raised => ?_,fun written took => ?_⟩
      · rw [save_begun rfl checked,(concludeSave_submitted _ _ _ _ _).2,(runAll_harmless harmless rfl).2]
        rfl
      · rintro rfl
        rw [ruled,runAll_caught]
        rfl
      · obtain ⟨outcome,after⟩ := save_failed harmless checked raised
        refine ⟨outcome,after,fun script' stops' verdict' => ?_⟩
        rw [after,save_begun rfl checked]
        exact (concludeSave_submitted _ _ _ _ _).1
      · obtain ⟨outcome,after⟩ := save_taken harmless checked took
        refine ⟨outcome,after.trans ?_⟩
        rw [Graph.settle,Graph.commit,Pending.settle_eq,funext Component.committed_eq]
        rfl

-- The shift after edits that only the graph knows of: events wait as well as removals.
def desk : Session :=
  (shift.runAll false [.step (.edit (.remove "a")),
    .step (.edit (.place { name := "E", factory := "filter", role := .both })),
    .step (.edit (.connect "b" "id-2"))]).after

-- A registry that would rather have an empty graph.
def meddling : List Action :=
  [.step (.edit .clear),.step (.edit (.remove "b")),.hold [.step (.edit .clear)] true,
    .save false [.step (.edit .clear)] true .accept]

theorem desk_saves :
    let tx : Transaction := ⟨desk.graph.topology,[.wire ⟨"a","b"⟩,.component ⟨"p"⟩]⟩
    let failed := desk.perform (.save false meddling false (.refuse (.crashed "down")))
    let taken := failed.after.perform (.save false meddling false .accept)
    desk.graph.WiresEnd ∧ desk.graph.checkSave = .ok () ∧
      meddling.all Action.harmless = true ∧
      failed.outcome = .error (.crashed "down") ∧ failed.sent = [tx] ∧ failed.after = desk ∧
      taken.outcome = .ok (.transaction tx) ∧ taken.sent = [tx] ∧
      taken.after.graph.events = desk.graph.events ∧ taken.after.graph.pending = {} ∧
      taken.after.graph.components.values.map (·.pid) = ["B","q","E"] ∧
      ({ desk with graph := desk.graph.hold }.perform
        (.save false meddling false .accept)).outcome = .error .saveInProgress := by
  have ends : desk.graph.WiresEnd := by unfold Graph.WiresEnd; decide +kernel
  have checked : desk.graph.checkSave = .ok () := by decide +kernel
  have harmless : meddling.all Action.harmless = true := by decide
  have pending : desk.graph.pending.deletions = [.wire ⟨"a","b"⟩,.component ⟨"p"⟩] := by
    decide +kernel
  have free := Graph.checkSave_unlocked checked
  have acyclic : ¬ ∃ wires, desk.graph.Tour wires := by
    rcases Graph.checkSave_free ends free with ⟨_,cycle,refused,_⟩ | ⟨none,_⟩
    · rw [checked] at refused
      cases refused
    · exact none
  obtain ⟨_,_,fails⟩ :=
    save_all_or_nothing desk ends harmless false (.refuse (.crashed "down"))
  obtain ⟨sent,raises,failed,_⟩ := fails free acyclic
  obtain ⟨outcome,after,_⟩ := failed _ (raises rfl)
  obtain ⟨_,_,takes⟩ := save_all_or_nothing desk ends harmless false .accept
  obtain ⟨resent,accepts,taken⟩ := takes free acyclic
  obtain ⟨settled,final⟩ := taken.2 _ (accepts rfl)
  rw [pending] at sent resent settled
  have locked := (save_all_or_nothing { desk with graph := desk.graph.hold } ends harmless false
    .accept).1 rfl
  refine ⟨ends,checked,harmless,outcome,sent,after,?_,?_,?_,?_,?_,locked.1⟩
  · rw [after]; exact settled
  · rw [after]; exact resent
  · rw [after,final]
  · rw [after,final]
  · rw [after,final]
    decide +kernel

end Session

end WireGraph
