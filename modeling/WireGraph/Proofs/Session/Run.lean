import WireGraph.Proofs.Graph.Change
import WireGraph.Script.Run

/-!
# Runs of an editor

What an editor can ask of a session, and what each of it comes to. Main statements: under the lock
nothing that an editor or a registry may try has any effect but a close, so that a save settles the
graph that was sent or leaves it as it was; and a run of an editor is a sequence of turns, each of
them nothing, one admitted edit, one save, or the close.
-/

namespace WireGraph

-- A save was accepted; no other action answers with a transaction.
def Trace.accepted (t : Trace) : Bool :=
  match t.outcome with
  | .ok (.transaction _) => true
  | _ => false

-- The transaction that a registry took, if the action came to that.
def Trace.taken (t : Trace) : Option Transaction := if t.accepted then t.submitted else none

-- What a registry may try while it looks at a transaction: edits, questions, blocks and saves of its
-- own, whatever they hold, and to close the session.
def Action.guarded : Action → Bool
  | .step (.edit _) | .step (.editSession _) | .step (.create _) | .step (.ask _) => true
  | .step .close | .step (.fail _) | .step .rest => true
  | .hold _ _ | .save _ _ _ _ => true
  | .step _ => false

-- What of it has no effect while the graph is locked: all but to close the session.
def Action.harmless : Action → Bool
  | .step .close => false
  | a => a.guarded

theorem Action.guarded_cases {a : Action} (guarded : a.guarded = true) :
    a.harmless = true ∨ a = .step .close := by
  unfold harmless
  split
  · exact .inr rfl
  · exact .inl guarded

-- What an editor asks of a session. A component is made by an order.
def Action.editorial : Action → Bool
  | .step (.editSession (.place _)) => false
  | .step (.editSession _) | .step (.create _) | .step (.ask _) => true
  | .step .close | .step (.fail _) | .step .rest => true
  | .save true script _ _ => script.all Action.guarded
  | _ => false

-- An edit that an editor makes: what it places is not registered.
def Edit.ordered : Edit → Prop
  | .place spec => spec.pid = unregisteredPid
  | _ => True

namespace Session

theorem changes_ordered {g : Graph} {e : Edit} (ordered : e.ordered) {spec : NewComponent}
    (placed : .placed spec ∈ g.changes e) : spec.pid = unregisteredPid := by
  cases e with
  | place asked =>
    obtain rfl : spec = asked := by simpa [Graph.changes] using placed
    exact ordered
  | connect => simp [Graph.changes] at placed
  | remove => simp [Graph.changes] at placed
  | disconnect => simp [Graph.changes] at placed
  | clear => simp [Graph.changes] at placed

-- The session after an accepted save.
def settled (s : Session) : Session := { s with graph := s.graph.settle, dirty := false }

-- Everything an action of an editor can come to. A registry may have closed the session meanwhile.
inductive Turn : Session → Trace → Prop where
  -- Nothing was done and nothing was sent.
  | kept {s : Session} {t : Trace} (after : t.after = s) (unsent : t.submitted = none)
      (open_end : t.accepted = false) : Turn s t
  | edited {s : Session} {t : Trace} {e : Edit} {graph : Graph} (opened : s.closed = false)
      (ordered : e.ordered) (runs : Graph.Runs s.graph (s.graph.changes e) graph)
      (after : t.after = touch { s with graph }) (unsent : t.submitted = none)
      (open_end : t.accepted = false) : Turn s t
  | closed {s : Session} {t : Trace} (after : t.after = s.close) (unsent : t.submitted = none)
      (open_end : t.accepted = false) : Turn s t
  -- The registry would not have it.
  | failed {s : Session} {t : Trace} (opened : s.closed = false)
      (checked : s.graph.checkSave = .ok ()) (after : t.after = s ∨ t.after = s.close)
      (sent : t.submitted = some s.graph.transaction) (open_end : t.accepted = false) : Turn s t
  | saved {s : Session} {t : Trace} (opened : s.closed = false)
      (checked : s.graph.checkSave = .ok ()) (after : t.after = s.settled ∨ t.after = s.settled.close)
      (sent : t.submitted = some s.graph.transaction) (accepted : t.accepted = true) : Turn s t

inductive Turns : Session → List Trace → Session → Prop where
  | nil {s : Session} : Turns s [] s
  | cons {s final : Session} {t : Trace} {rest : List Trace} :
      Turn s t → Turns t.after rest final → Turns s (t :: rest) final

-- The session after the actions that left these traces.
def reached (s : Session) : List Trace → Session
  | [] => s
  | t :: rest => reached t.after rest

-- What an accepted save sends, and what it leaves.
structure Settles (s : Session) (t : Trace) : Prop where
  opened : s.closed = false
  taken : t.taken = some s.graph.transaction
  components : t.after.graph.components = s.graph.components.mapValues (·.committed)
  wires : t.after.graph.wires = s.graph.wires.mapValues (·.committed)
  pending : t.after.graph.pending = {}
  unlocked : t.after.graph.locked = false

end Session

namespace Graph
variable {g : Graph}

theorem apply_locked (locked : g.locked = true) (e : Edit) :
    g.apply e = (.error .saveInProgress,g) := by
  cases e with
  | place => simp [apply,place,checkPlace,locked,Except.map]
  | connect => simp [apply,connect,checkConnect,locked,Except.map]
  | remove => simp [apply,remove,locked,Except.map]
  | disconnect => simp [apply,disconnect,locked,Except.map]
  | clear => simp [apply,clear,locked,Except.map]

theorem checkSave_unlocked (checked : g.checkSave = .ok ()) : g.locked = false := by
  unfold checkSave at checked
  split at checked
  · cases checked
  · rename_i free
    simpa using free

end Graph

namespace Session
variable {s after : Session}

theorem checkOpen_iff : s.checkOpen = .ok () ↔ s.closed = false := by
  unfold checkOpen
  cases s.closed <;> simp

-- An order that cannot be read, or that comes to a closed session, places nothing.
theorem create_cases (s : Session) (order : Except Fault Order) :
    (∃ f, s.step (.create order) = (.error f,s)) ∨
      ∃ e : Edit, e.ordered ∧ s.step (.create order) = s.step (.editSession e) := by
  cases opened : s.checkOpen with
  | error f => exact .inl ⟨f,by simp only [step,opened]⟩
  | ok _ =>
    cases order with
    | error f => exact .inl ⟨f,by simp only [step,opened]⟩
    | ok o => exact .inr ⟨.place (s.request o),rfl,by simp only [step,opened,create]⟩

theorem edit_cases (keyed : s.graph.Keyed) (e : Edit) :
    (∃ f, s.edit e = (.error f,s)) ∨
      ∃ added graph, s.edit e = (.ok added,touch { s with graph }) ∧ s.closed = false ∧
        Graph.Runs s.graph (s.graph.changes e) graph := by
  unfold edit
  split
  · rename_i f _
    exact .inl ⟨f,rfl⟩
  · rename_i opened
    rcases Graph.apply_cases keyed e with ⟨f,refused⟩ | ⟨added,graph,made,runs⟩
    · exact .inl ⟨f,by rw [refused]⟩
    · exact .inr ⟨added,graph,by rw [made],checkOpen_iff.mp opened,runs⟩

theorem edit_locked (locked : s.graph.locked = true) (e : Edit) :
    ∃ f, s.edit e = (.error f,s) ∧ (s.closed = false → f = .saveInProgress) := by
  unfold edit
  split
  · rename_i f refused
    refine ⟨f,rfl,fun opened => ?_⟩
    rw [checkOpen_iff.mpr opened] at refused
    cases refused
  · rw [Graph.apply_locked locked e]
    exact ⟨.saveInProgress,rfl,fun _ => rfl⟩

theorem beginHold_held {held : Session} (begun : s.beginHold = .ok held) :
    s.graph.locked = false ∧ held = { s with graph := s.graph.hold } := by
  unfold beginHold Graph.checkUnlocked at begun
  cases free : s.graph.locked with
  | true => simp [free] at begun
  | false => simpa [free,eq_comm] using begun

theorem save_locked (locked : s.graph.locked = true) (session stops : Bool) (script : List Action)
    (verdict : Verdict) : (s.perform (.save session script stops verdict)).after = s := by
  rw [perform]
  split
  · rfl
  · simp [beginSave,Graph.checkSave,locked]

-- The lock refuses whatever would change something. Scripts inside are not even begun.
theorem perform_harmless {a : Action} (harmless : a.harmless = true)
    (locked : s.graph.locked = true) : (s.perform a).after = s := by
  cases a with
  | step step =>
    cases step with
    | edit e => simp [perform,Session.step,withEdited,Graph.apply_locked locked e]
    | editSession e =>
      obtain ⟨f,refused,_⟩ := edit_locked locked e
      simp [perform,Session.step,refused]
    | create order =>
      rcases s.create_cases order with ⟨f,refused⟩ | ⟨e,_,same⟩
      · rw [perform,refused]
      · obtain ⟨f,refused,_⟩ := edit_locked locked e
        rw [perform,same]
        simp [Session.step,refused]
    | ask q => rfl
    | fail f => rfl
    | rest => rfl
    | close => cases harmless
    | drain => cases harmless
    | commit => cases harmless
    | changeComponent => cases harmless
    | changeWire => cases harmless
    | track => cases harmless
    | reload => cases harmless
  | hold script stops => simp [perform,beginHold,Graph.checkUnlocked,locked]
  | save session script stops verdict => exact save_locked locked session stops script verdict

theorem perform_locked {a : Action} (guarded : a.guarded = true) (locked : s.graph.locked = true) :
    (s.perform a).after = s ∨ (s.perform a).after = s.close := by
  rcases Action.guarded_cases guarded with harmless | rfl
  · exact .inl (perform_harmless harmless locked)
  · exact .inr rfl

-- A script is stopped by a fault, if it is told to stop, and goes on otherwise.
theorem runAll_stopped {a : Action} {f : Fault} (raised : (s.perform a).outcome = .error f)
    (rest : List Action) :
    s.runAll true (a :: rest) = ⟨[s.perform a],some f,(s.perform a).after⟩ := by
  simp [runAll,raised]

theorem runAll_on {stops : Bool} {a : Action}
    (quiet : stops = true → ∃ v, (s.perform a).outcome = .ok v) (rest : List Action) :
    s.runAll stops (a :: rest) =
      { (s.perform a).after.runAll stops rest with
        traces := s.perform a :: ((s.perform a).after.runAll stops rest).traces } := by
  cases stops with
  | false => simp [runAll]
  | true =>
    obtain ⟨v,answered⟩ := quiet rfl
    simp [runAll,answered]

theorem runAll_cons (s : Session) (stops : Bool) (a : Action) (rest : List Action) :
    (∃ f, (s.runAll stops (a :: rest)) = ⟨[s.perform a],some f,(s.perform a).after⟩) ∨
      s.runAll stops (a :: rest) =
        { (s.perform a).after.runAll stops rest with
          traces := s.perform a :: ((s.perform a).after.runAll stops rest).traces } := by
  cases stops with
  | false =>
    refine .inr (runAll_on ?_ rest)
    nofun
  | true =>
    cases outcome : (s.perform a).outcome with
    | error f => exact .inl ⟨f,runAll_stopped outcome rest⟩
    | ok v => exact .inr (runAll_on (fun _ => ⟨v,outcome⟩) rest)

-- What every action of a script keeps, the script keeps, however it ends.
theorem runAll_preserves {P : Session → Prop} {script : List Action} {stops : Bool}
    (step : ∀ {x a}, a ∈ script → P x → P (x.perform a).after) (start : P s) :
    P (s.runAll stops script).after := by
  induction script generalizing s with
  | nil => exact start
  | cons a rest ih =>
    have here := step List.mem_cons_self start
    rcases s.runAll_cons stops a rest with ⟨f,stopped⟩ | on
    · rw [stopped]
      exact here
    · rw [on]
      exact ih (fun member => step (List.mem_cons_of_mem _ member)) here

-- A trace of a script is that of the action at its place, and the script goes on from there. What
-- every action keeps holds where this action begins.
theorem runAll_reaches {P : Session → Prop} {script : List Action} {stops : Bool}
    {earlier later : List Trace} {t : Trace}
    (step : ∀ {x a}, a ∈ script → P x → P (x.perform a).after) (start : P s)
    (ran : (s.runAll stops script).traces = earlier ++ t :: later) :
    P (s.reached earlier) ∧ ∃ a rest, script.drop earlier.length = a :: rest ∧
      t = (s.reached earlier).perform a ∧
      (s.runAll stops script).after = ((s.reached earlier).runAll stops (a :: rest)).after := by
  induction earlier generalizing s script with
  | nil =>
    cases script with
    | nil => cases ran
    | cons a rest =>
      refine ⟨start,a,rest,rfl,?_,rfl⟩
      rcases s.runAll_cons stops a rest with ⟨f,stopped⟩ | on
      · rw [stopped] at ran
        exact (List.head_eq_of_cons_eq ran).symm
      · rw [on] at ran
        exact (List.head_eq_of_cons_eq ran).symm
  | cons u more ih =>
    cases script with
    | nil => cases ran
    | cons a rest =>
      have here := step List.mem_cons_self start
      rcases s.runAll_cons stops a rest with ⟨f,stopped⟩ | on
      · rw [stopped] at ran
        simp at ran
      · rw [on] at ran ⊢
        obtain ⟨rfl,onward⟩ := List.cons_eq_cons.mp ran
        exact ih (fun member => step (List.mem_cons_of_mem _ member)) here onward

theorem runAll_locked {script : List Action} (guarded : script.all Action.guarded = true)
    (stops : Bool) (locked : s.graph.locked = true) :
    (s.runAll stops script).after = s ∨ (s.runAll stops script).after = s.close := by
  refine runAll_preserves (P := fun x => x = s ∨ x = s.close) (fun {x a} member kept => ?_) (.inl rfl)
  have here : a.guarded = true := List.all_eq_true.mp guarded a member
  rcases kept with rfl | rfl
  · exact perform_locked here locked
  · -- A second close changes nothing more.
    rcases perform_locked (s := s.close) here locked with same | again
    · exact .inr same
    · exact .inr again

-- What is left of the lock when it is given back.
theorem giveBack_hold (free : s.graph.locked = false) :
    s.giveBack { s with graph := s.graph.hold } = s ∧
      s.giveBack (close { s with graph := s.graph.hold }) = s.close := by
  obtain ⟨graph,snapshot,dirty,closed,replaced⟩ := s
  cases graph
  cases free
  simp [giveBack,sameGraph,close,Graph.hold,Graph.release,Graph.drain]

theorem endSave_settles (free : s.graph.locked = false) :
    s.endSave true { s with graph := s.graph.hold } = { s with graph := s.graph.settle } := by
  obtain ⟨graph,snapshot,dirty,closed,replaced⟩ := s
  cases graph
  cases free
  simp [endSave,giveBack,sameGraph,Graph.hold,Graph.release,Graph.settle,Graph.commit]

theorem endSave_hold (free : s.graph.locked = false) :
    (s.endSave true { s with graph := s.graph.hold }).clean = s.settled ∧
      (s.endSave true (close { s with graph := s.graph.hold })).clean = s.settled.close := by
  refine ⟨by rw [endSave_settles free]; rfl,?_⟩
  obtain ⟨graph,snapshot,dirty,closed,replaced⟩ := s
  cases graph
  cases free
  simp [endSave,giveBack,sameGraph,close,clean,settled,Graph.hold,Graph.release,Graph.settle,
    Graph.commit,Graph.drain,Pending.reset]

-- A registry that is handed the transaction cannot change the session, so only its ruling counts.
theorem save_turn {script : List Action} {stops : Bool} {verdict : Verdict}
    (guarded : script.all Action.guarded = true) :
    Turn s (s.perform (.save true script stops verdict)) := by
  rw [perform]
  split
  · exact .kept rfl rfl rfl
  · rename_i opened
    have opened := checkOpen_iff.mp opened
    unfold beginSave
    cases checked : s.graph.checkSave with
    | error f => exact .kept rfl rfl rfl
    | ok _ =>
      have free := Graph.checkSave_unlocked checked
      have ran := runAll_locked (s := { s with graph := s.graph.hold }) guarded stops rfl
      unfold concludeSave
      dsimp only
      split
      · obtain ⟨held,closed⟩ := endSave_hold free
        refine .saved opened checked ?_ rfl rfl
        rcases ran with same | same
        · exact .inl (by rw [same]; exact held)
        · exact .inr (by rw [same]; exact closed)
      · obtain ⟨held,closed⟩ := giveBack_hold free
        refine .failed opened checked ?_ rfl rfl
        rcases ran with same | same
        · exact .inl (by rw [same]; exact held)
        · exact .inr (by rw [same]; exact closed)

-- No question is answered with a transaction or with events.
theorem answer_bare (s : Session) (q : Question) :
    (∀ tx, s.answer q ≠ .ok (.transaction tx)) ∧ ∀ happened, s.answer q ≠ .ok (.events happened) := by
  cases q with
  | component id => rw [answer]; cases s.graph.component? id <;> exact ⟨nofun,nofun⟩
  | wire id => rw [answer]; cases s.graph.wire? id <;> exact ⟨nofun,nofun⟩
  | adjacency => rw [answer]; cases s.graph.danglingProducer? <;> exact ⟨nofun,nofun⟩
  | hasCycle => rw [answer]; cases s.graph.hasCycle <;> exact ⟨nofun,nofun⟩
  | report => rw [answer]; cases s.graph.report <;> exact ⟨nofun,nofun⟩
  | plan => rw [answer]; cases s.graph.plan <;> exact ⟨nofun,nofun⟩
  | _ => exact ⟨nofun,nofun⟩

theorem ask_open_end (s : Session) (q : Question) : (s.perform (.step (.ask q))).accepted = false := by
  rw [perform]
  simp only [Trace.accepted,step]
  split
  · rename_i tx answered
    exact absurd answered ((s.answer_bare q).1 tx)
  · rfl

theorem edit_turn (keyed : s.graph.Keyed) {e : Edit} (ordered : e.ordered) :
    Turn s (s.perform (.step (.editSession e))) := by
  rw [perform]
  rcases edit_cases keyed e with ⟨f,refused⟩ | ⟨added,graph,made,opened,runs⟩
  · simp only [step,refused]
    exact .kept rfl rfl rfl
  · simp only [step,made]
    refine .edited opened ordered runs rfl rfl ?_
    cases added <;> rfl

theorem perform_turn (keyed : s.graph.Keyed) {a : Action} (editorial : a.editorial = true) :
    Turn s (s.perform a) := by
  cases a with
  | step step =>
    cases step with
    | editSession e =>
      cases e with
      | place => cases editorial
      | connect => exact edit_turn keyed trivial
      | remove => exact edit_turn keyed trivial
      | disconnect => exact edit_turn keyed trivial
      | clear => exact edit_turn keyed trivial
    | create order =>
      rcases s.create_cases order with ⟨f,refused⟩ | ⟨e,ordered,same⟩
      · rw [perform,refused]
        exact .kept rfl rfl rfl
      · have turn := edit_turn keyed ordered
        rw [perform] at turn ⊢
        rwa [same]
    | ask q => exact .kept rfl rfl (s.ask_open_end q)
    | fail f => exact .kept rfl rfl rfl
    | rest => exact .kept rfl rfl rfl
    | edit => cases editorial
    | drain => cases editorial
    | commit => cases editorial
    | changeComponent => cases editorial
    | changeWire => cases editorial
    | track => cases editorial
    | reload => cases editorial
    | close => exact .closed rfl rfl rfl
  | hold => cases editorial
  | save session script stops verdict =>
    cases session with
    | true => exact save_turn editorial
    | false => cases editorial

-- What an edit, a close and an accepted save keep, every turn keeps.
theorem Turn.preserves {P : Session → Prop} {t : Trace} (turn : Turn s t)
    (edit : ∀ {e graph}, e.ordered → Graph.Runs s.graph (s.graph.changes e) graph →
      P (touch { s with graph }))
    (close : ∀ {x : Session}, P x → P x.close) (save : P s.settled) (start : P s) : P t.after := by
  cases turn with
  | kept after => rwa [after]
  | edited opened ordered runs after => rw [after]; exact edit ordered runs
  | closed after => rw [after]; exact close start
  | failed opened checked after =>
    rcases after with after | after
    · rwa [after]
    · rw [after]; exact close start
  | saved opened checked after =>
    rcases after with after | after
    · rwa [after]
    · rw [after]; exact close save

theorem Turn.keyed {t : Trace} (turn : Turn s t) (keyed : s.graph.Keyed) : t.after.graph.Keyed := by
  refine turn.preserves (P := fun x => x.graph.Keyed) ?_ ?_ keyed.settle keyed
  · intro e graph _ runs
    have kept := runs.keyed keyed
    exact ⟨kept.components,kept.wires⟩
  · exact fun kept => ⟨kept.components,kept.wires⟩

theorem Turn.drawn_le {t : Trace} (turn : Turn s t) : s.graph.drawn ≤ t.after.graph.drawn :=
  turn.preserves (P := fun x => s.graph.drawn ≤ x.graph.drawn) (fun _ runs => runs.drawn_le)
    (fun under => under) (Nat.le_refl _) (Nat.le_refl _)

theorem Turn.supply {t : Trace} (turn : Turn s t) : t.after.graph.supply = s.graph.supply :=
  turn.preserves (P := fun x => x.graph.supply = s.graph.supply) (fun _ runs => runs.supply)
    (fun same => same) rfl rfl

theorem Turn.spares {t : Trace} {upto : Nat} (turn : Turn s t)
    (spares : s.graph.Spares s.graph.drawn upto) : t.after.graph.Spares t.after.graph.drawn upto := by
  refine turn.preserves (P := fun x => x.graph.Spares x.graph.drawn upto) ?_ ?_ ?_ spares
  · exact fun _ runs => (runs.spares spares).congr rfl rfl rfl
  · exact fun kept => kept.congr rfl rfl rfl
  · exact spares.congr (Table.keys_mapValues _ _) (Table.keys_mapValues _ _) rfl

-- Between the actions of an editor no event is left to be collected.
theorem Turn.collected {t : Trace} (turn : Turn s t) (none : s.graph.events = []) :
    t.after.graph.events = [] :=
  turn.preserves (P := fun x => x.graph.events = []) (fun _ _ => rfl) (fun _ => rfl) none none

-- A closed session stays closed.
theorem Turn.closed_stays {t : Trace} (turn : Turn s t) (closed : s.closed = true) :
    t.after.closed = true :=
  turn.preserves (P := fun x => x.closed = true) (fun _ _ => closed) (fun _ => rfl) closed closed

-- What every turn keeps, a run keeps.
theorem Turns.preserves {P : Session → Prop} {final : Session} {traces : List Trace}
    (turns : Turns s traces final) (step : ∀ {x t}, Turn x t → P x → P t.after) (start : P s) :
    P final := by
  induction turns with
  | nil => exact start
  | cons turn _ ih => exact ih (step turn start)

theorem Turns.drawn_le {final : Session} {traces : List Trace} (turns : Turns s traces final) :
    s.graph.drawn ≤ final.graph.drawn :=
  turns.preserves (P := fun x => s.graph.drawn ≤ x.graph.drawn)
    (fun turn under => Nat.le_trans under turn.drawn_le) (Nat.le_refl _)

theorem Turns.opened {final : Session} {traces : List Trace} (turns : Turns s traces final)
    (opened : final.closed = false) : s.closed = false := by
  refine Bool.eq_false_iff.mpr fun closed => ?_
  have stays : final.closed = true :=
    turns.preserves (P := fun x => x.closed = true) (fun turn => turn.closed_stays) closed
  rw [stays] at opened
  cases opened

theorem Turns.keyed {final : Session} {traces : List Trace} (turns : Turns s traces final)
    (keyed : s.graph.Keyed) : final.graph.Keyed :=
  turns.preserves (P := fun x => x.graph.Keyed) (fun turn => turn.keyed) keyed

theorem Turns.collected {final : Session} {traces : List Trace} (turns : Turns s traces final)
    (none : s.graph.events = []) : final.graph.events = [] :=
  turns.preserves (P := fun x => x.graph.events = []) (fun turn => turn.collected) none

theorem Turn.settles {t : Trace} (turn : Turn s t) (accepted : t.accepted = true) :
    Settles s t := by
  cases turn with
  | kept _ _ open_end => rw [open_end] at accepted; cases accepted
  | edited _ _ _ _ _ open_end => rw [open_end] at accepted; cases accepted
  | closed _ _ open_end => rw [open_end] at accepted; cases accepted
  | failed _ _ _ _ open_end => rw [open_end] at accepted; cases accepted
  | saved opened checked after sent =>
    have taken : t.taken = some s.graph.transaction := by rw [Trace.taken,if_pos accepted,sent]
    have free := Graph.checkSave_unlocked checked
    rcases after with after | after
    · refine ⟨opened,taken,?_,?_,?_,?_⟩ <;> rw [after]
      · rfl
      · rfl
      · rfl
      · exact free
    · refine ⟨opened,taken,?_,?_,?_,?_⟩ <;> rw [after]
      · rfl
      · rfl
      · rfl
      · exact free

-- As long as the session is open, what is not accepted changes nothing or is an edit.
theorem Turn.unsettled {t : Trace} (turn : Turn s t) (opened : t.after.closed = false)
    (open_end : t.accepted = false) :
    t.after = s ∨ ∃ e graph, e.ordered ∧ Graph.Runs s.graph (s.graph.changes e) graph ∧
      t.after = touch { s with graph } := by
  cases turn with
  | kept after => exact .inl after
  | edited _ ordered runs after => exact .inr ⟨_,_,ordered,runs,after⟩
  | closed after => rw [after] at opened; cases opened
  | failed _ _ after =>
    rcases after with after | after
    · exact .inl after
    · rw [after] at opened; cases opened
  | saved _ _ _ _ accepted => rw [accepted] at open_end; cases open_end

theorem Settles.wires_eq {t : Trace} (settles : Settles s t) :
    t.after.graph.wires.values = s.graph.wires.values.map fun w => { w with fresh := false } := by
  rw [settles.wires,Table.values_mapValues]
  rfl

theorem Settles.known {t : Trace} (settles : Settles s t) :
    ∀ w ∈ t.after.graph.wires.values, w.fresh = false := by
  intro w stored
  rw [settles.wires_eq] at stored
  obtain ⟨old,_,rfl⟩ := List.mem_map.mp stored
  rfl

theorem Turns.split {final : Session} {earlier later : List Trace}
    (turns : Turns s (earlier ++ later) final) :
    Turns s earlier (s.reached earlier) ∧ Turns (s.reached earlier) later final := by
  induction earlier generalizing s with
  | nil => exact ⟨.nil,turns⟩
  | cons t rest ih =>
    cases turns with
    | cons turn onward =>
      obtain ⟨first,others⟩ := ih onward
      exact ⟨.cons turn first,others⟩

theorem run_turns (keyed : s.graph.Keyed) {actions : List Action}
    (editorial : ∀ a ∈ actions, a.editorial = true) (stops : Bool) :
    Turns s (s.runAll stops actions).traces (s.runAll stops actions).after := by
  induction actions generalizing s with
  | nil => exact .nil
  | cons a rest ih =>
    have turn : Turn s (s.perform a) := perform_turn keyed (editorial a List.mem_cons_self)
    rcases s.runAll_cons stops a rest with ⟨f,stopped⟩ | on
    · rw [stopped]
      exact .cons turn .nil
    · rw [on]
      exact .cons turn (ih (turn.keyed keyed) fun b member => editorial b (List.mem_cons_of_mem _ member))

-- What a registration leaves of a graph: nothing, or a component of its own under its pid.
theorem reconcile_cases {g grown : Graph} {r : Registration} (done : g.reconcile r = .ok grown) :
    grown = g ∨ g.registeredAs? r.pid = none ∧ Graph.Moves g (.placed r.request) grown := by
  unfold Graph.reconcile at done
  split at done
  · cases done
    exact .inl rfl
  · rename_i unknown
    have unknown : g.registeredAs? r.pid = none := by simpa using unknown
    rcases g.place_cases r.request with ⟨f,refused⟩ | ⟨made,move⟩
    · rw [refused] at done
      dsimp only at done
      split at done
      · cases done
        exact .inl rfl
      · cases done
    · rw [made] at done
      cases done
      exact .inr ⟨unknown,move⟩

theorem reconcile_preserves {P : Graph → Prop} {records : List Registration} {g grown : Graph}
    (step : ∀ {g r}, r ∈ records → g.registeredAs? r.pid = none →
      Graph.Moves g (.placed r.request) (g.placed r.request) → P g → P (g.placed r.request))
    (done : records.foldlM Graph.reconcile g = .ok grown) (start : P g) : P grown := by
  induction records generalizing g with
  | nil => cases done; exact start
  | cons r rest ih =>
    rw [List.foldlM_cons] at done
    cases first : g.reconcile r with
    | error f => rw [first] at done; cases done
    | ok next =>
      rw [first] at done
      refine ih (fun member => step (List.mem_cons_of_mem _ member)) done ?_
      rcases reconcile_cases first with rfl | ⟨unknown,move⟩
      · exact start
      · cases move with
        | placed admitted => exact step List.mem_cons_self unknown (.placed admitted) start

theorem start_parts {snapshot : Snapshot} {settings : Settings} {supply : List String}
    (started : Session.start snapshot settings supply = .ok s) :
    ∃ grown, snapshot.components.foldlM Graph.reconcile
        (Graph.restore snapshot.graph settings.driverFactories 0 supply) = .ok grown ∧
      s = { graph := grown.drain.2, snapshot } := by
  unfold Session.start at started
  cases grown : snapshot.components.foldlM Graph.reconcile
      (Graph.restore snapshot.graph settings.driverFactories 0 supply) with
  | error f => simp only [grown] at started; cases started
  | ok graph => simp only [grown] at started; cases started; exact ⟨graph,rfl,rfl⟩

-- What a snapshot opens has nothing to be replayed and no event to be collected.
theorem start_quiet {snapshot : Snapshot} {settings : Settings} {supply : List String}
    (started : Session.start snapshot settings supply = .ok s) :
    s.graph.Keyed ∧ s.graph.pending.deletions = [] ∧ s.graph.events = [] := by
  obtain ⟨grown,done,rfl⟩ := start_parts started
  have parts : grown.Keyed ∧ grown.pending.deletions = [] := by
    refine reconcile_preserves (P := fun g => g.Keyed ∧ g.pending.deletions = []) ?_ done
      ⟨Graph.restore_keyed _ _ _ _,rfl⟩
    intro g r _ _ move kept
    exact ⟨move.keyed kept.1,(Pending.noteCreation_deletions _ _).trans kept.2⟩
  exact ⟨⟨parts.1.components,parts.1.wires⟩,parts.2,rfl⟩

-- A registered component that feeds one that is not, and a registration that the graph lacks.
def handover : Snapshot :=
  { graph :=
      { components :=
          [{ id := "a", pid := "p", factory := "timer", name := "A", role := .producer },
            { id := "b", factory := "filter", name := "B", role := .both }]
        wires := [{ id := "w", producer := "a", consumer := "b", fresh := false }] }
    components := [{ pid := "q", factory := "logger", name := "C", role := .consumer }] }

-- What the snapshot opens.
def shift : Session := (Session.start handover {}).toOption.getD {}

-- A save that is taken, and another that is not.
def shiftRun : List Action :=
  [.step (.create (.ok { factory := "filter", name := "D" })),
    .step (.editSession (.connect "b" "id-1")),
    .save true [.step (.editSession .clear)] false .accept,
    .step (.editSession (.remove "a")),
    .step (.editSession (.remove "id-2")),
    .step (.create (.ok { factory := "filter", name := "E" })),
    .step (.create (.ok { factory := "filter", name := "E" })),
    .save true [] false (.refuse .saveInProgress)]

end Session

end WireGraph
