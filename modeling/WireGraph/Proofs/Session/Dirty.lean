import WireGraph.Proofs.Graph.Removal
import WireGraph.Proofs.Session.Difference

/-!
# Unsaved work

Whether a session holds work that no registry has agreed to: since it was started, or since the last
accepted save, some action left a component or wire in the graph that was not there before it, or
took one out. Main statement: after every run of an editor this is what the dirty flag says, and as
long as it says no, the graph and what is pending in it are those of that moment.
-/

namespace WireGraph

-- Something is in one of the lists and not in the other.
def Unlike {α : Type} (before after : List α) : Prop :=
  (∃ a ∈ before, a ∉ after) ∨ ∃ a ∈ after, a ∉ before

instance {α : Type} [DecidableEq α] (before after : List α) : Decidable (Unlike before after) :=
  inferInstanceAs (Decidable (_ ∨ _))

theorem unlike_irrefl {α : Type} (items : List α) : ¬Unlike items items := by
  rintro (⟨a,here,not_here⟩ | ⟨a,here,not_here⟩)
  · exact not_here here
  · exact not_here here

namespace Graph
variable {g after : Graph} {change : Change} {path : List Change}

-- A component or wire was added or removed.
def Differs (before after : Graph) : Prop :=
  Unlike before.components.values after.components.values ∨
    Unlike before.wires.values after.wires.values

instance (before after : Graph) : Decidable (before.Differs after) :=
  inferInstanceAs (Decidable (_ ∨ _))

theorem not_differs (components : after.components = g.components) (wires : after.wires = g.wires) :
    ¬g.Differs after := by
  rw [Differs,components,wires]
  rintro (component | wire)
  · exact unlike_irrefl _ component
  · exact unlike_irrefl _ wire

theorem gone_differs (keyed : after.Keyed) (lost : g.gone after ≠ []) : g.Differs after := by
  obtain ⟨removal,member⟩ := List.exists_mem_of_ne_nil _ lost
  rcases List.mem_append.mp member with wire | component
  · obtain ⟨w,left,_⟩ := List.mem_map.mp wire
    obtain ⟨stored,absent⟩ := List.mem_filter.mp left
    refine .inr (.inl ⟨w,stored,fun still => ?_⟩)
    rw [Table.contains_iff.mpr (Table.key_mem (keyed.wire still))] at absent
    cases absent
  · obtain ⟨c,left,_⟩ := List.mem_map.mp component
    obtain ⟨stored,absent⟩ := List.mem_filter.mp left
    refine .inl (.inl ⟨c,stored,fun still => ?_⟩)
    rw [contains,Table.contains_iff.mpr (Table.key_mem (keyed.component still))] at absent
    cases absent

-- A new component has a name that was not there, so it is not one of the old ones, whatever its id.
theorem placed_differs {spec : NewComponent} (admitted : g.checkPlace spec = .ok ()) :
    g.Differs (g.placed spec) := by
  have here : (g.nextId,spec.withId g.nextId) ∈
      (g.components.insert g.nextId (spec.withId g.nextId)).entries := Table.mem_insert.mpr (.inl rfl)
  refine .inl (.inr ⟨_,List.mem_map.mpr ⟨_,here,rfl⟩,fun old => ?_⟩)
  obtain ⟨_,_,unnamed,_⟩ := checkPlace_iff.mp admitted
  have other := List.find?_eq_none.mp unnamed _ old
  exact other (beq_iff_eq.mpr rfl)

theorem connected_differs {producer consumer : String}
    (admitted : g.checkConnect producer consumer = .ok ()) :
    g.Differs (g.connected producer consumer) := by
  let w : Wire := { id := g.nextId, producer, consumer, fresh := true }
  have here : (g.nextId,w) ∈ (g.wires.insert g.nextId w).entries := Table.mem_insert.mpr (.inl rfl)
  refine .inr (.inr ⟨w,List.mem_map.mpr ⟨_,here,rfl⟩,fun old => ?_⟩)
  obtain ⟨_,_,unjoined,_⟩ := checkConnect_iff.mp admitted
  have other := List.find?_eq_none.mp unjoined w old
  simp [w] at other

-- An admitted edit that has changes to make adds something or takes something out. Its changes do not
-- undo one another.
theorem Runs.differs (keyed : g.Keyed) {e : Edit} (runs : Runs g (g.changes e) after)
    (changed : g.changes e ≠ []) : g.Differs after := by
  have taken (lost : removalsOf (g.changes e) ≠ []) : g.Differs after :=
    gone_differs (runs.keyed keyed) (by rwa [apply_gone keyed runs])
  cases e with
  | place spec =>
    obtain _ | ⟨move,rest⟩ := runs
    cases rest
    cases move with
    | placed admitted => exact placed_differs admitted
  | connect producer consumer =>
    obtain _ | ⟨move,rest⟩ := runs
    cases rest
    cases move with
    | connected admitted => exact connected_differs admitted
  | remove i => exact taken (by simpa [changes,removalsOf_parts] using changed)
  | disconnect i =>
    have found : g.wire? i ≠ none := by simpa [changes] using changed
    exact taken (by simpa [changes,removalsOf,Change.removal?,Option.ne_none_iff_exists'] using found)
  | clear => exact taken (by simpa [changes,removalsOf_parts] using changed)

-- An edit may be admitted and have nothing to change.
example : ({} : Graph).clear.1 = .ok () ∧ ¬({} : Graph).Differs ({} : Graph).clear.2 := by decide

theorem Moves.eventful (move : Moves g change after) : after.events ≠ [] := by
  cases move with
  | placed => exact List.append_ne_nil_of_right_ne_nil _ (List.cons_ne_nil _ _)
  | connected => exact List.append_ne_nil_of_right_ne_nil _ (List.cons_ne_nil _ _)
  | cut => exact List.append_ne_nil_of_right_ne_nil _ (List.cons_ne_nil _ _)
  | removed => exact List.append_ne_nil_of_right_ne_nil _ (List.cons_ne_nil _ _)

theorem Runs.eventful (runs : Runs g path after) (changed : path ≠ []) : after.events ≠ [] := by
  cases runs with
  | nil => exact absurd rfl changed
  | cons move rest =>
    obtain ⟨news,events,_⟩ := rest.reported
    rw [events]
    exact List.append_ne_nil_of_left_ne_nil move.eventful _

end Graph

namespace Session
variable {s final : Session} {t : Trace} {traces : List Trace} {base : Graph}

-- Some action of the run added or removed something, and no save was accepted since.
def Unsaved (s : Session) (traces : List Trace) : Prop :=
  ∃ earlier t later, traces = earlier ++ t :: later ∧
    (s.reached earlier).graph.Differs t.after.graph ∧ ∀ u ∈ t :: later, u.accepted = false

theorem not_unsaved_nil (s : Session) : ¬s.Unsaved [] := by
  rintro ⟨earlier,t,later,none,_⟩
  cases earlier <;> cases none

theorem unsaved_cons {rest : List Trace} : s.Unsaved (t :: rest) ↔
    (s.graph.Differs t.after.graph ∧ t.accepted = false ∧ ∀ u ∈ rest, u.accepted = false) ∨
      t.after.Unsaved rest := by
  constructor
  · rintro ⟨earlier,u,later,split,differs,open_end⟩
    cases earlier with
    | nil =>
      obtain ⟨rfl,rfl⟩ := List.cons_eq_cons.mp split
      exact .inl ⟨differs,List.forall_mem_cons.mp open_end⟩
    | cons first earlier =>
      obtain ⟨rfl,onward⟩ := List.cons_eq_cons.mp split
      exact .inr ⟨earlier,u,later,onward,differs,open_end⟩
  · rintro (⟨differs,open_end⟩ | ⟨earlier,u,later,rfl,differs,open_end⟩)
    · exact ⟨[],t,rest,rfl,differs,List.forall_mem_cons.mpr open_end⟩
    · exact ⟨t :: earlier,u,later,rfl,differs,open_end⟩

-- The flag after an edit: what was unsaved stays so, and an edit that does nothing adds nothing.
theorem touch_dirty (keyed : s.graph.Keyed) (collected : s.graph.events = []) {e : Edit}
    {graph : Graph} (runs : Graph.Runs s.graph (s.graph.changes e) graph) :
    (touch { s with graph }).dirty = true ↔ s.dirty = true ∨ s.graph.Differs graph := by
  change (s.dirty || !graph.events.isEmpty) = true ↔ _
  rw [Bool.or_eq_true,Bool.not_eq_true',List.isEmpty_eq_false_iff]
  refine or_congr_right ?_
  by_cases changed : s.graph.changes e = []
  · rw [changed] at runs
    cases runs
    exact iff_of_false (fun some => some collected) (Graph.not_differs rfl rfl)
  · exact iff_of_true (runs.eventful changed) (runs.differs keyed changed)

theorem Turn.dirty (turn : Turn s t) (keyed : s.graph.Keyed) (collected : s.graph.events = []) :
    t.after.dirty = true ↔
      t.accepted = false ∧ (s.dirty = true ∨ s.graph.Differs t.after.graph) := by
  have same {x : Session} (dirty : x.dirty = s.dirty)
      (components : x.graph.components = s.graph.components)
      (wires : x.graph.wires = s.graph.wires) :
      x.dirty = true ↔ s.dirty = true ∨ s.graph.Differs x.graph := by
    rw [dirty,or_iff_left (Graph.not_differs components wires)]
  cases turn with
  | kept after _ open_end =>
    rw [after,and_iff_right open_end]
    exact same rfl rfl rfl
  | edited _ _ runs after _ open_end =>
    rw [after,and_iff_right open_end]
    exact touch_dirty keyed collected runs
  | closed after _ open_end =>
    rw [after,and_iff_right open_end]
    exact same rfl rfl rfl
  | failed _ _ after _ open_end =>
    rw [and_iff_right open_end]
    rcases after with after | after
    · rw [after]
      exact same rfl rfl rfl
    · rw [after]
      exact same rfl rfl rfl
  | saved _ _ after _ accepted =>
    have clean : t.after.dirty = false := by rcases after with after | after <;> rw [after] <;> rfl
    simp [clean,accepted]

theorem Turns.dirty (turns : Turns s traces final) (keyed : s.graph.Keyed)
    (collected : s.graph.events = []) :
    final.dirty = true ↔
      (s.dirty = true ∧ ∀ u ∈ traces, u.accepted = false) ∨ s.Unsaved traces := by
  induction turns with
  | @nil s => simp [not_unsaved_nil]
  | cons turn _ ih =>
    rw [ih (turn.keyed keyed) (turn.collected collected),turn.dirty keyed collected,unsaved_cons,
      List.forall_mem_cons]
    tauto

-- The session has the components and wires of the graph, and the same is pending. A close has
-- emptied what was pending.
structure Agrees (x : Session) (base : Graph) : Prop where
  components : x.graph.components = base.components
  wires : x.graph.wires = base.wires
  deletions : x.graph.pending.deletions = base.pending.deletions
  creations : x.graph.pending.creations = if x.closed then [] else base.pending.creations

theorem Agrees.close (agrees : s.Agrees base) (none : base.pending.deletions = []) :
    s.close.Agrees base :=
  ⟨agrees.components,agrees.wires,none.symm,rfl⟩

theorem Turn.agrees (turn : Turn s t) (none : base.pending.deletions = [])
    (agrees : s.dirty = false → s.Agrees base) (clean : t.after.dirty = false) :
    t.after.Agrees (if t.accepted then t.after.graph else base) := by
  cases turn with
  | kept after _ open_end =>
    rw [open_end]
    rw [after] at clean ⊢
    exact agrees clean
  | @edited e _ _ _ runs after _ open_end =>
    rw [open_end]
    rw [after] at clean ⊢
    obtain ⟨before,quiet⟩ := (Bool.or_eq_false_iff (x:=s.dirty)).mp clean
    -- An edit without an event has left the graph as it was.
    have unchanged : s.graph.changes e = [] := by
      by_contra changed
      exact runs.eventful changed (by simpa using quiet)
    rw [unchanged] at runs
    cases runs
    have as_before := agrees before
    exact ⟨as_before.components,as_before.wires,as_before.deletions,as_before.creations⟩
  | closed after _ open_end =>
    rw [open_end]
    rw [after] at clean ⊢
    exact (agrees clean).close none
  | failed _ _ after _ open_end =>
    rw [open_end]
    rcases after with after | after
    · rw [after] at clean ⊢
      exact agrees clean
    · rw [after] at clean ⊢
      exact (agrees clean).close none
  | saved opened checked after sent accepted =>
    have settles := (Turn.saved opened checked after sent accepted).settles accepted
    rw [if_pos accepted]
    refine ⟨rfl,rfl,rfl,?_⟩
    rw [settles.pending,ite_self]

theorem Turns.agrees (turns : Turns s traces final) (none : base.pending.deletions = [])
    (agrees : s.dirty = false → s.Agrees base) (clean : final.dirty = false) :
    final.Agrees (baseline base traces) := by
  induction turns generalizing base with
  | nil => exact agrees clean
  | @cons s final t rest turn _ ih =>
    refine ih ?_ (turn.agrees none agrees) clean
    split
    · rename_i accepted
      rw [(turn.settles accepted).pending]
    · exact none

theorem dirty_exact {snapshot : Snapshot} {settings : Settings} {supply : List String}
    (started : Session.start snapshot settings supply = .ok s) {actions : List Action}
    (editorial : ∀ a ∈ actions, a.editorial = true) (stops : Bool) :
    let course := s.runAll stops actions
    let x := course.after
    (x.dirty = true ↔ s.Unsaved course.traces) ∧
      (x.dirty = false → x.Agrees (baseline s.graph course.traces)) := by
  obtain ⟨keyed,none,collected⟩ := start_quiet started
  have fresh : s.dirty = false ∧ s.closed = false := by
    obtain ⟨grown,_,rfl⟩ := start_parts started
    exact ⟨rfl,rfl⟩
  have turns := run_turns keyed editorial stops
  have same : s.Agrees s.graph := ⟨rfl,rfl,rfl,by rw [fresh.2]; rfl⟩
  refine ⟨?_,turns.agrees none fun _ => same⟩
  rw [turns.dirty keyed collected]
  simp [fresh.1]

-- Everything is removed and saved; what follows has nothing to remove, or is refused.
def lull : List Action :=
  [.step (.editSession .clear),.save true [] false .accept,.step (.editSession .clear),
    .step (.create (.ok { factory := "filter", name := "" })),
    .save true [] false (.refuse .saveInProgress)]

theorem shift_dirty :
    let busy := shift.runAll false shiftRun
    let idle := shift.runAll false lull
    Session.start handover {} = .ok shift ∧ (∀ a ∈ shiftRun, a.editorial = true) ∧
      (∀ a ∈ lull, a.editorial = true) ∧
      busy.after.dirty = true ∧ shift.Unsaved busy.traces ∧
      idle.after.dirty = false ∧ ¬shift.Unsaved idle.traces ∧
      idle.after.Agrees (baseline shift.graph idle.traces) := by
  have started : Session.start handover {} = .ok shift := by decide +kernel
  have worked : ∀ a ∈ shiftRun, a.editorial = true := by decide
  have waited : ∀ a ∈ lull, a.editorial = true := by decide
  have dirty : (shift.runAll false shiftRun).after.dirty = true := by decide +kernel
  have clean : (shift.runAll false lull).after.dirty = false := by decide +kernel
  obtain ⟨unsaved,_⟩ := dirty_exact started worked false
  obtain ⟨saved,agrees⟩ := dirty_exact started waited false
  refine ⟨started,worked,waited,dirty,unsaved.mp dirty,clean,fun work => ?_,agrees clean⟩
  rw [saved.mpr work] at clean
  cases clean

end Session

end WireGraph
