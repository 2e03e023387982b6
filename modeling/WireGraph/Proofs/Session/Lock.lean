import WireGraph.Proofs.Session.Submission

/-!
# Blocks under the lock

What a block comes to that runs under the lock, and what is left of the lock after it. Main
statement: an unlocked graph is unlocked again after every action of a run; a block whose script
makes edits, saves, blocks of its own and faults denies all of them but the faults, sends nothing and
leaves the session as it was, whether it ends normally or by a fault.
-/

namespace WireGraph

-- What needs a graph that is not locked. A closed session does not come to the graph.
def Action.contends (closed : Bool) : Action → Bool
  | .step (.edit _) | .hold _ _ | .save false _ _ _ => true
  | .step (.editSession _) | .step (.create (.ok _)) | .save true _ _ _ => !closed
  | .step _ => false

-- What the block around a script comes to.
def Course.answer (course : Course) : Except Fault Answer :=
  match course.stop with
  | some f => .error f
  | none => .ok .done

namespace Graph

theorem dropWires_lock (g : Graph) (ws : List Wire) : (g.dropWires ws).2.locked = g.locked := by
  induction ws generalizing g with
  | nil => rfl
  | cons w rest ih =>
    unfold dropWires
    split
    · exact ih (g.withoutWire w)
    · rfl

theorem dropComponents_lock (g : Graph) (cs : List Component) :
    (g.dropComponents cs).2.locked = g.locked := by
  induction cs generalizing g with
  | nil => rfl
  | cons c rest ih =>
    unfold dropComponents
    split
    · exact ih (g.withoutComponent c.id c)
    · rfl

-- No edit takes the lock or gives it back.
theorem apply_lock (g : Graph) (e : Edit) : (g.apply e).2.locked = g.locked := by
  cases e with
  | place spec =>
    rw [apply,place]
    cases g.checkPlace spec <;> rfl
  | connect producer consumer =>
    rw [apply,connect]
    cases g.checkConnect producer consumer <;> rfl
  | remove id =>
    have cut := g.dropWires_lock (g.attached id)
    rw [apply,remove]
    split
    · rfl
    · split
      · rfl
      · split
        · rename_i same
          rwa [same] at cut
        · exact cut
  | disconnect id =>
    rw [apply,disconnect]
    split
    · rfl
    · split
      · rfl
      · rename_i w _
        exact g.dropWires_lock [w]
  | clear =>
    have cut := g.dropWires_lock g.wires.values
    rw [apply,clear]
    split
    · rfl
    · split
      · rename_i rest same
        rw [same] at cut
        exact (rest.dropComponents_lock _).trans cut
      · exact cut

theorem amendComponent_lock (g : Graph) (id : String) (changes : List ComponentChange) :
    (g.amendComponent id changes).2.locked = g.locked := by
  unfold amendComponent
  split <;> rfl

theorem amendWire_lock (g : Graph) (id : String) (changes : List WireChange) :
    (g.amendWire id changes).2.locked = g.locked := by
  unfold amendWire
  split <;> rfl

end Graph

namespace Session
variable {s middle after : Session} {stops : Bool} {script : List Action}

-- How the lock stands after something: as before on the graph that was there, open on another one
-- that took its place.
structure KeepsLock (s after : Session) : Prop where
  later : s.replaced ≤ after.replaced
  lock : after.graph.locked = (s.graph.locked && s.sameGraph after)

theorem KeepsLock.free (kept : KeepsLock s after) (free : s.graph.locked = false) :
    after.graph.locked = false := by
  rw [kept.lock,free]
  rfl

theorem KeepsLock.of_same (lock : after.graph.locked = s.graph.locked)
    (same : after.replaced = s.replaced) : KeepsLock s after :=
  ⟨Nat.le_of_eq same.symm,by simp [sameGraph,lock,same]⟩

theorem KeepsLock.trans (first : KeepsLock s middle) (second : KeepsLock middle after) :
    KeepsLock s after := by
  have early := first.later
  have late := second.later
  -- A graph that was replaced on the way is not put back.
  have same : (s.sameGraph middle && middle.sameGraph after) = s.sameGraph after := by
    refine Bool.eq_iff_iff.mpr ?_
    simp only [sameGraph,Bool.and_eq_true,beq_iff_eq]
    omega
  exact ⟨Nat.le_trans early late,by rw [second.lock,first.lock,Bool.and_assoc,same]⟩

theorem edit_keepsLock (s : Session) (e : Edit) : KeepsLock s (s.edit e).2 := by
  have kept := s.graph.apply_lock e
  unfold edit
  split
  · exact .of_same rfl rfl
  · split
    · rename_i made
      rw [made] at kept
      exact .of_same kept rfl
    · rename_i refused
      rw [refused] at kept
      exact .of_same kept rfl

theorem step_keepsLock (s : Session) (step : Step) : KeepsLock s (s.step step).2 := by
  cases step with
  | edit e => exact .of_same (s.graph.apply_lock e) rfl
  | changeComponent id changes => exact .of_same (s.graph.amendComponent_lock id changes) rfl
  | changeWire id changes => exact .of_same (s.graph.amendWire_lock id changes) rfl
  | editSession e => exact s.edit_keepsLock e
  | create order =>
    rcases s.create_cases order with ⟨f,refused⟩ | ⟨e,_,same⟩
    · rw [refused]
      exact .of_same rfl rfl
    · rw [same]
      exact s.edit_keepsLock e
  | reload driverFactories => exact ⟨Nat.le_succ _,by simp [Session.step,reload,sameGraph,Graph.restore]⟩
  | ask | drain | commit | track | close | fail | rest => exact .of_same rfl rfl

-- A lock that was taken is given back, whatever became of the graph meanwhile.
theorem giveBack_keepsLock (free : s.graph.locked = false)
    (held : KeepsLock { s with graph := s.graph.hold } after) : KeepsLock s (s.giveBack after) := by
  have lock : after.graph.locked = (true && s.sameGraph after) := held.lock
  unfold giveBack
  split
  · exact ⟨held.later,by rw [free]; rfl⟩
  · rename_i replaced
    exact ⟨held.later,by rw [lock,free,Bool.eq_false_iff.mpr replaced]; rfl⟩

theorem endSave_keepsLock (free : s.graph.locked = false)
    (held : KeepsLock { s with graph := s.graph.hold } after) (accepted : Bool) :
    KeepsLock s (s.endSave accepted after) := by
  unfold endSave
  dsimp only
  split
  · exact giveBack_keepsLock free (held.trans (.of_same rfl rfl))
  · exact giveBack_keepsLock free held

mutual

theorem perform_keepsLock (s : Session) (a : Action) : KeepsLock s (s.perform a).after := by
  cases a with
  | step step =>
    rw [perform]
    exact s.step_keepsLock step
  | hold script stops =>
    rw [perform]
    split
    · exact .of_same rfl rfl
    · rename_i begun
      obtain ⟨free,rfl⟩ := beginHold_held begun
      exact giveBack_keepsLock free (runAll_keepsLock { s with graph := s.graph.hold } stops script)
  | save session script stops verdict =>
    rw [perform]
    split
    · exact .of_same rfl rfl
    · unfold beginSave
      cases checked : s.graph.checkSave with
      | error f => exact .of_same rfl rfl
      | ok _ =>
        have free := Graph.checkSave_unlocked checked
        have ended := endSave_keepsLock free
          (runAll_keepsLock { s with graph := s.graph.hold } stops script)
        unfold concludeSave
        dsimp only
        split
        · cases session with
          | true => exact (ended true).trans (.of_same rfl rfl)
          | false => exact ended true
        · exact ended false

theorem runAll_keepsLock (s : Session) (stops : Bool) (script : List Action) :
    KeepsLock s (s.runAll stops script).after := by
  cases script with
  | nil => exact .of_same rfl rfl
  | cons a rest =>
    have here := s.perform_keepsLock a
    rcases s.runAll_cons stops a rest with ⟨f,stopped⟩ | on
    · rw [stopped]
      exact here
    · rw [on]
      exact here.trans ((s.perform a).after.runAll_keepsLock stops rest)

end

-- What a script comes to none of whose actions changes anything: it ends, or it is stopped at the
-- first fault.
inductive Idles (s : Session) (stops : Bool) :
    List Action → List Trace → Except Fault Answer → Prop where
  | ended {script : List Action}
      (quiet : stops = true → ∀ a ∈ script, ∃ v, (s.perform a).outcome = .ok v) :
      Idles s stops script (script.map s.perform) (.ok .done)
  | stopped {before rest : List Action} {a : Action} {f : Fault} (told : stops = true)
      (quiet : ∀ b ∈ before, ∃ v, (s.perform b).outcome = .ok v)
      (raised : (s.perform a).outcome = .error f) :
      Idles s stops (before ++ a :: rest) ((before ++ [a]).map s.perform) (.error f)

theorem Idles.cons {traces : List Trace} {outcome : Except Fault Answer} {a : Action}
    (quiet : stops = true → ∃ v, (s.perform a).outcome = .ok v)
    (onward : Idles s stops script traces outcome) :
    Idles s stops (a :: script) (s.perform a :: traces) outcome := by
  cases onward with
  | ended more =>
    exact .ended fun told => List.forall_mem_cons.mpr ⟨quiet told,more told⟩
  | stopped told more raised =>
    exact @Idles.stopped s stops (a :: _) _ _ _ told (List.forall_mem_cons.mpr ⟨quiet told,more⟩) raised

theorem runAll_idles (idle : ∀ a ∈ script, (s.perform a).after = s) (stops : Bool) :
    Idles s stops script (s.runAll stops script).traces (s.runAll stops script).answer := by
  induction script with
  | nil => exact .ended fun _ => nofun
  | cons a rest ih =>
    obtain ⟨here,others⟩ := List.forall_mem_cons.mp idle
    have on (quiet : stops = true → ∃ v, (s.perform a).outcome = .ok v) :
        Idles s stops (a :: rest) (s.runAll stops (a :: rest)).traces
          (s.runAll stops (a :: rest)).answer := by
      rw [runAll_on quiet rest,here]
      exact (ih others).cons quiet
    cases stops with
    | false => exact on nofun
    | true =>
      cases outcome : (s.perform a).outcome with
      | ok v => exact on fun _ => ⟨v,outcome⟩
      | error f =>
        rw [runAll_stopped outcome rest]
        exact @Idles.stopped s true [] rest a f rfl nofun outcome

-- What meets the lock is denied, and no script inside it is begun.
theorem perform_denied {a : Action} (locked : s.graph.locked = true)
    (contends : a.contends s.closed = true) : (s.perform a).outcome = .error .saveInProgress := by
  have edit (opened : s.closed = false) (e : Edit) : s.edit e = (.error .saveInProgress,s) := by
    obtain ⟨f,refused,same⟩ := edit_locked locked e
    rw [refused,same opened]
  cases a with
  | step step =>
    cases step with
    | edit e => simp [perform,Session.step,withEdited,Graph.apply_locked locked e]
    | editSession e =>
      have opened : s.closed = false := by simpa [Action.contends] using contends
      simp [perform,Session.step,edit opened]
    | create order =>
      cases order with
      | error f => cases contends
      | ok o =>
        have opened : s.closed = false := by simpa [Action.contends] using contends
        simp [perform,Session.step,checkOpen_iff.mpr opened,create,edit opened]
    | ask | drain | commit | changeComponent | changeWire | track | reload | close | fail | rest =>
      cases contends
  | hold script stops => simp [perform,beginHold,Graph.checkUnlocked,locked]
  | save session script stops verdict =>
    have admitted : s.checkSave session = .ok () := by
      cases session with
      | true => exact checkOpen_iff.mpr (by simpa [Action.contends] using contends)
      | false => rfl
    simp [perform,admitted,beginSave,Graph.checkSave_locked locked]

theorem perform_unbegun {a : Action} (harmless : a.harmless = true)
    (locked : s.graph.locked = true) : (s.perform a).inner.getD [] = [] := by
  cases a with
  | step step => rfl
  | hold script stops => simp [perform,beginHold,Graph.checkUnlocked,locked]
  | save session script stops verdict =>
    rw [perform]
    split
    · rfl
    · simp [beginSave,Graph.checkSave_locked locked]

-- What a block comes to that meets an unlocked graph: its script runs on the held graph and changes
-- nothing there, what needs the lock is denied, and the session is left as it was.
structure Shut (s : Session) (script : List Action) (stops : Bool) (t : Trace) : Prop where
  ran : ∃ traces, t.inner = some traces ∧
    Idles { s with graph := s.graph.hold } stops script traces t.outcome
  barred : ∀ a ∈ script,
    let u := ({ s with graph := s.graph.hold } : Session).perform a
    u.after = { s with graph := s.graph.hold } ∧ u.inner.getD [] = [] ∧ u.sent = [] ∧
      (a.contends s.closed = true → u.outcome = .error .saveInProgress)
  unsent : t.sent = []
  restored : t.after = s

theorem hold_shut (free : s.graph.locked = false) (harmless : script.all Action.harmless = true)
    (stops : Bool) : Shut s script stops (s.perform (.hold script stops)) := by
  have begun : s.beginHold = .ok { s with graph := s.graph.hold } := by
    simp [beginHold,Graph.checkUnlocked,free]
  have each : ∀ a ∈ script, a.harmless = true := List.all_eq_true.mp harmless
  obtain ⟨after,unsent⟩ :=
    @runAll_harmless { s with graph := s.graph.hold } script stops harmless rfl
  have idles : Idles { s with graph := s.graph.hold } stops script _ _ :=
    runAll_idles (fun a member => perform_harmless (each a member) rfl) stops
  rw [perform,begun]
  refine ⟨⟨_,rfl,idles⟩,fun a member => ?_,unsent,?_⟩
  · have quiet := each a member
    exact ⟨perform_harmless quiet rfl,perform_unbegun quiet rfl,perform_unsent quiet rfl,
      perform_denied (s := { s with graph := s.graph.hold }) rfl⟩
  · change s.giveBack ({ s with graph := s.graph.hold }.runAll stops script).after = s
    rw [after]
    exact (giveBack_hold free).1

-- Each trace of a run is that of one of its actions, and the graph is unlocked where it begins.
theorem runAll_at {actions : List Action} {earlier later : List Trace} {t : Trace}
    (free : s.graph.locked = false) (ran : (s.runAll stops actions).traces = earlier ++ t :: later) :
    (s.reached earlier).graph.locked = false ∧
      ∃ a, actions[earlier.length]? = some a ∧ t = (s.reached earlier).perform a := by
  obtain ⟨open_here,a,rest,place,here,_⟩ := runAll_reaches (P := fun x => x.graph.locked = false)
    (fun _ free => (perform_keepsLock _ _).free free) free ran
  refine ⟨open_here,a,?_,here⟩
  rw [← List.head?_drop,place,List.head?_cons]

theorem lock_exclusive (free : s.graph.locked = false) (actions : List Action) (stops : Bool) :
    let course := s.runAll stops actions
    course.after.graph.locked = false ∧
      ∀ earlier t later, course.traces = earlier ++ t :: later →
        let x := s.reached earlier
        x.graph.locked = false ∧ t.after.graph.locked = false ∧
          ∃ a, actions[earlier.length]? = some a ∧ t = x.perform a ∧
            ∀ script halts, a = .hold script halts → script.all Action.harmless = true →
              Shut x script halts t := by
  refine ⟨(s.runAll_keepsLock stops actions).free free,fun earlier t later ran => ?_⟩
  obtain ⟨open_here,a,asked,rfl⟩ := runAll_at free ran
  refine ⟨open_here,(perform_keepsLock _ a).free open_here,a,asked,rfl,?_⟩
  rintro script halts rfl harmless
  exact hold_shut open_here harmless halts

-- Two blocks that try the same after an edit, the second of which does not catch a fault, and a save.
def guardedDay : List Action :=
  [.step (.edit (.place { name := "F", factory := "filter", role := .both })),
    .hold (.step (.ask .hasCycle) :: meddling) false,.hold (.step (.ask .hasCycle) :: meddling) true,
    .save false meddling false .accept]

theorem desk_shut :
    let script := .step (.ask .hasCycle) :: meddling
    let x := (desk.runAll false (guardedDay.take 1)).after
    let caught := x.perform (.hold script false)
    let thrown := caught.after.perform (.hold script true)
    let course := desk.runAll false guardedDay
    desk.graph.locked = false ∧ script.all Action.harmless = true ∧
      Shut x script false caught ∧ caught.outcome = .ok .done ∧
      Shut x script true thrown ∧ thrown.outcome = .error .saveInProgress ∧
      thrown.after.graph.events = desk.graph.events ++ [.componentAdded "id-4"] ∧
      course.traces.map (·.sent) = [[],[],[],[x.graph.transaction]] ∧
      course.after.graph.locked = false := by
  intro script x caught thrown course
  have free : desk.graph.locked = false := by decide +kernel
  have harmless : script.all Action.harmless = true := by decide
  obtain ⟨unlocked,each⟩ := lock_exclusive free guardedDay false
  have first : Shut x script false caught := by
    obtain ⟨_,_,a,asked,_,shut⟩ := each [_] caught _ rfl
    exact shut script false (Option.some.inj asked).symm harmless
  have second : Shut x script true thrown := by
    obtain ⟨_,_,a,asked,_,shut⟩ := each [_,caught] thrown _ rfl
    rw [← first.restored]
    exact shut script true (Option.some.inj asked).symm harmless
  have added : x.graph.events = desk.graph.events ++ [.componentAdded "id-4"] := by decide +kernel
  refine ⟨free,harmless,first,by decide +kernel,second,by decide +kernel,?_,by decide +kernel,unlocked⟩
  rw [second.restored,added]

end Session

end WireGraph
