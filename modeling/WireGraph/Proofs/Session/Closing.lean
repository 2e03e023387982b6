import WireGraph.Proofs.Session.Lock

/-!
# Closed sessions

What is left to happen to a session that was closed, and what becomes of a save during which its
registry closes the session. Main statement: after a close nothing pends and nothing that an editor
does has an effect, makes an edit or reaches a registry, in any sequence; a save that was in flight
has sent the removals that pended when it began, and whatever the registry rules, the session is
closed after it, unlocked and with nothing pending, and stays so.
-/

namespace WireGraph

-- What needs an open session.
def Action.operates : Action → Bool
  | .step (.editSession _) | .step (.create _) | .save true _ _ _ => true
  | _ => false

-- What can be asked of a session, open or closed. A registry that is named in it may be any.
def Action.sessional : Action → Bool
  | .step (.ask _) | .step .close | .step (.fail _) | .step .rest => true
  | a => a.operates

-- What gives a held graph nothing new to tell a registry of: all but to note a change by hand and to
-- put another graph in its place.
def Action.discreet : Action → Bool
  | .step (.track (.noteCreation _)) | .step (.track (.noteRemoval _)) => false
  | .step (.track (.noteWireRemoval _)) | .step (.reload _) => false
  | _ => true

namespace Session
variable {s : Session} {script actions : List Action} {stops : Bool}

-- Closed, with nothing left to send or to collect.
structure Ended (s : Session) : Prop where
  closed : s.closed = true
  pending : s.graph.pending = {}
  events : s.graph.events = []

theorem close_ended (s : Session) : s.close.Ended := ⟨rfl,rfl,rfl⟩

theorem Ended.again (ended : s.Ended) : s.close = s := by
  obtain ⟨graph,snapshot,dirty,closed,replaced⟩ := s
  obtain ⟨rfl,pending,events⟩ := ended
  cases graph
  cases pending
  cases events
  rfl

theorem perform_closed {a : Action} (closed : s.closed = true) (operates : a.operates = true) :
    s.perform a = { outcome := .error .sessionClosed, after := s } := by
  have refused : s.checkOpen = .error .sessionClosed := if_pos closed
  cases a with
  | step step =>
    cases step with
    | editSession e => simp only [perform,Session.step,edit,refused]; rfl
    | create order => simp only [perform,Session.step,refused]
    | edit | ask | drain | commit | changeComponent | changeWire | track | reload | close | fail | rest =>
      cases operates
  | hold => cases operates
  | save session script stops verdict =>
    cases session with
    | true => simp only [perform,checkSave,if_pos,refused]
    | false => cases operates

theorem Ended.still (ended : s.Ended) {a : Action} (sessional : a.sessional = true) :
    (s.perform a).after = s ∧ (s.perform a).sent = [] := by
  cases operates : a.operates with
  | true =>
    rw [perform_closed ended.closed operates]
    exact ⟨rfl,rfl⟩
  | false =>
    cases a with
    | step step =>
      refine ⟨?_,rfl⟩
      cases step with
      | close => exact ended.again
      | ask | fail | rest => rfl
      | edit | drain | commit | changeComponent | changeWire | track | reload => cases sessional
      | editSession | create => cases operates
    | hold => cases sessional
    | save session =>
      cases session with
      | true => cases operates
      | false => cases sessional

-- What later actions come to, one by one and as a whole: the session is left as it is, nothing is
-- sent, and what needs an open session is denied.
structure Remains (s : Session) (actions : List Action) (stops : Bool) : Prop where
  idles : Idles s stops actions (s.runAll stops actions).traces (s.runAll stops actions).answer
  after : (s.runAll stops actions).after = s
  unsent : sentAlong (s.runAll stops actions).traces = []
  denied : ∀ a ∈ actions, a.operates = true →
    s.perform a = { outcome := .error .sessionClosed, after := s }

theorem Ended.remains (ended : s.Ended) (sessional : ∀ a ∈ actions, a.sessional = true) (stops : Bool) :
    Remains s actions stops := by
  have still (a : Action) (member : a ∈ actions) := ended.still (sessional a member)
  obtain ⟨after,unsent⟩ := runAll_still still stops
  exact ⟨runAll_idles (fun a member => (still a member).1) stops,after,unsent,
    fun a _ operates => perform_closed ended.closed operates⟩

-- On a held graph a discreet action leaves the graph held, and an ended session ended.
theorem perform_discreet {a : Action} (discreet : a.discreet = true) (locked : s.graph.locked = true) :
    (s.perform a).after.graph.locked = true ∧ (s.Ended → (s.perform a).after.Ended) := by
  cases harmless : a.harmless with
  | true =>
    rw [perform_harmless harmless locked]
    exact ⟨locked,fun ended => ended⟩
  | false =>
    cases a with
    | step step =>
      cases step with
      | drain => exact ⟨locked,fun ended => ⟨ended.closed,ended.pending,rfl⟩⟩
      | commit => exact ⟨locked,fun ended => ⟨ended.closed,ended.pending,ended.events⟩⟩
      | close => exact ⟨locked,fun _ => s.close_ended⟩
      | changeComponent id changes =>
        refine ⟨(s.graph.amendComponent_lock id changes).trans locked,fun ended => ?_⟩
        rw [perform,Session.step,withEdited,Graph.amendComponent]
        split <;> exact ⟨ended.closed,ended.pending,ended.events⟩
      | changeWire id changes =>
        refine ⟨(s.graph.amendWire_lock id changes).trans locked,fun ended => ?_⟩
        rw [perform,Session.step,withEdited,Graph.amendWire]
        split <;> exact ⟨ended.closed,ended.pending,ended.events⟩
      | track change =>
        refine ⟨locked,fun ended => ⟨ended.closed,?_,ended.events⟩⟩
        change (s.graph.pending.apply change).2 = {}
        rw [ended.pending]
        cases change with
        | takeDeletions | clearCreations | reset => rfl
        | noteCreation | noteRemoval | noteWireRemoval => cases discreet
      | reload => cases discreet
      | edit | editSession | create | ask | fail | rest => cases harmless
    | hold | save => cases harmless

theorem runAll_discreet (discreet : ∀ a ∈ script, a.discreet = true)
    (locked : s.graph.locked = true) (ended : s.Ended) : (s.runAll stops script).after.Ended := by
  refine And.right (runAll_preserves (P := fun x => x.graph.locked = true ∧ x.Ended) ?_ ⟨locked,ended⟩)
  intro x a member ⟨held,finished⟩
  obtain ⟨still,ends⟩ := perform_discreet (discreet a member) held
  exact ⟨still,ends finished⟩

-- A script that came as far as to close the session has ended it.
theorem runAll_closes {earlier later : List Trace} {u : Trace}
    (discreet : script.all Action.discreet = true) (locked : s.graph.locked = true)
    (ran : (s.runAll stops script).traces = earlier ++ u :: later)
    (asked : script[earlier.length]? = some (.step .close)) : (s.runAll stops script).after.Ended := by
  have each : ∀ a ∈ script, a.discreet = true := List.all_eq_true.mp discreet
  obtain ⟨held,a,rest,place,_,onward⟩ := runAll_reaches (P := fun x => x.graph.locked = true)
    (fun member locked => (perform_discreet (each _ member) locked).1) locked ran
  have first : a = .step .close := by simpa [← List.head?_drop,place] using asked
  have others (b : Action) (member : b ∈ rest) : b.discreet = true :=
    each b (List.mem_of_mem_drop (place ▸ List.mem_cons_of_mem a member))
  rw [onward,first]
  rcases runAll_cons (s.reached earlier) stops (.step .close) rest with ⟨f,stopped⟩ | on
  · rw [stopped]
    exact close_ended _
  · rw [on]
    exact runAll_discreet others held (close_ended _)

-- What the registry took is settled after the close; nothing was left to settle but flags and pids.
theorem Ended.endSave (ended : s.Ended) (earlier : Session) (accepted : Bool) :
    (earlier.endSave accepted s).Ended := by
  have settled : ({ s with graph := s.graph.settle } : Session).Ended := ⟨ended.closed,rfl,ended.events⟩
  have released {x : Session} (finished : x.Ended) : (earlier.giveBack x).Ended := by
    unfold giveBack
    split
    · exact ⟨finished.closed,finished.pending,finished.events⟩
    · exact finished
  unfold Session.endSave
  dsimp only
  split
  · exact released settled
  · exact released ended

theorem Ended.clean (ended : s.Ended) : s.clean.Ended := ⟨ended.closed,ended.pending,ended.events⟩

-- A save in the course of which the session was closed.
structure ClosedWithin (s : Session) (ruled : Except Fault (Option String)) (t : Trace) : Prop where
  sent : t.submitted = some s.graph.transaction
  deletions : s.graph.transaction.deletions = s.graph.pending.deletions
  outcome : t.outcome = (fun _ => .transaction s.graph.transaction) <$> ruled
  closed : t.after.closed = true
  unlocked : t.after.graph.locked = false
  pending : t.after.graph.pending = {}

theorem save_closes {session : Bool} {verdict : Verdict} {earlier later : List Trace} {u : Trace}
    (discreet : script.all Action.discreet = true)
    (inner : (s.perform (.save session script stops verdict)).inner = some (earlier ++ u :: later))
    (asked : script[earlier.length]? = some (.step .close)) :
    let t := s.perform (.save session script stops verdict)
    ClosedWithin s (s.ruled script stops verdict) t ∧ t.after.Ended := by
  obtain ⟨opened,checked⟩ := save_admitted inner
  have unlocked := (s.perform_keepsLock (.save session script stops verdict)).free
    (Graph.checkSave_unlocked checked)
  have ran := Option.some.inj ((save_called opened checked).symm.trans inner)
  have finished := runAll_closes discreet rfl ran asked
  rw [save_begun opened checked] at unlocked ⊢
  cases ruled : s.ruled script stops verdict with
  | error f =>
    rw [ruled] at unlocked
    have ended := finished.endSave s false
    exact ⟨⟨rfl,rfl,rfl,ended.closed,unlocked,ended.pending⟩,ended⟩
  | ok written =>
    rw [ruled] at unlocked
    have settled := finished.endSave s true
    cases session with
    | false => exact ⟨⟨rfl,rfl,rfl,settled.closed,unlocked,settled.pending⟩,settled⟩
    | true => exact ⟨⟨rfl,rfl,rfl,settled.closed,unlocked,settled.pending⟩,settled.clean⟩

theorem close_final (s : Session) {actions : List Action}
    (sessional : ∀ a ∈ actions, a.sessional = true) (stops : Bool) :
    let x := s.close
    x.closed = true ∧ x.graph.components = s.graph.components ∧ x.graph.wires = s.graph.wires ∧
      x.graph.pending = {} ∧ Remains x actions stops ∧
      ∀ session script halts verdict, script.all Action.discreet = true →
        let t := s.perform (.save session script halts verdict)
        ∀ earlier u later, t.inner = some (earlier ++ u :: later) →
          script[earlier.length]? = some (.step .close) →
            ClosedWithin s (s.ruled script halts verdict) t ∧ Remains t.after actions stops := by
  refine ⟨rfl,rfl,rfl,rfl,s.close_ended.remains sessional stops,?_⟩
  intro session script halts verdict discreet t earlier u later inner asked
  obtain ⟨closed,ended⟩ := save_closes discreet inner asked
  exact ⟨closed,ended.remains sessional stops⟩

-- Whatever an editor may still ask for.
def afterwards : List Action :=
  [.step (.create (.ok { factory := "filter", name := "Z" })),.step (.editSession (.connect "b" "id-1")),
    .step (.editSession (.remove "b")),.step (.editSession (.disconnect "id-3")),
    .step (.editSession .clear),.save true [] false .accept,.step (.ask .topology),.step .close]

-- A registry that closes the session, and then tries to empty it.
def leaving : List Action := [.step (.ask .topology),.step .close,.step (.editSession .clear)]

theorem shift_closes :
    let x := (shift.runAll false (shiftRun.take 6)).after
    let taken := x.perform (.save true leaving false .accept)
    let failed := x.perform (.save true leaving true .accept)
    (∀ a ∈ afterwards, a.sessional = true) ∧ leaving.all Action.discreet = true ∧
      x.graph.pending = ⟨[.wire ⟨"a","b"⟩,.component ⟨"p"⟩,.component ⟨"D"⟩],["id-4"]⟩ ∧
      Remains x.close afterwards false ∧
      (x.close.runAll false afterwards).traces.map (·.outcome) =
        List.replicate 6 (.error .sessionClosed) ++ [.ok (.topology x.graph.topology),.ok .done] ∧
      ClosedWithin x (x.ruled leaving false .accept) taken ∧
      taken.outcome = .ok (.transaction x.graph.transaction) ∧
      ClosedWithin x (x.ruled leaving true .accept) failed ∧
      failed.outcome = .error .sessionClosed ∧ Remains failed.after afterwards false := by
  intro x taken failed
  have sessional : ∀ a ∈ afterwards, a.sessional = true := by decide
  have discreet : leaving.all Action.discreet = true := by decide
  have opened : x.checkSave true = .ok () := by decide +kernel
  have checked : x.graph.checkSave = .ok () := by decide +kernel
  obtain ⟨_,_,_,_,remains,inside⟩ := close_final x sessional false
  obtain ⟨within,_⟩ :=
    inside true leaving false .accept discreet [_] _ _ (save_called opened checked) rfl
  -- This registry does not catch that the session was closed under it, and so it raises.
  obtain ⟨raised,finished⟩ :=
    inside true leaving true .accept discreet [_] _ _ (save_called opened checked) rfl
  exact ⟨sessional,discreet,by decide +kernel,remains,by decide +kernel,within,by decide +kernel,raised,
    by decide +kernel,finished⟩

end Session

end WireGraph
