import Mathlib.Data.Finset.Basic
import Mathlib.Data.Finset.SDiff
import WireGraph.Proofs.Session.Commit

/-!
# The books of a registry

A registry that strikes out what a transaction deletes and then enters what its topology holds, told
of every accepted save of a session and of nothing else. Main statement: after an accepted save its
books show the pids and the wires of the graph, and at any other time, as long as the session is
open, those that the graph has as committed together with those whose removal is pending.
-/

namespace WireGraph

-- The instances a registry has, by their pids, and its wires, by the ids of their ends.
@[ext]
structure Ledger where
  pids : Finset String
  pairs : Finset (String × String)
deriving DecidableEq

def Deletion.pid? : Deletion → Option String
  | .component record => some record.pid
  | .wire _ => none

def Deletion.pair? : Deletion → Option (String × String)
  | .wire record => some (record.producer,record.consumer)
  | .component _ => none

-- The pid under which a registry enters a component that it is sent.
def Component.entered (c : Component) : String := if c.pid = unregisteredPid then c.name else c.pid

def Wire.pair (w : Wire) : String × String := (w.producer,w.consumer)

theorem Component.deletion?_iff {c : Component} {r : Deletion} :
    c.deletion? = some r ↔ c.registered = true ∧ r = .component ⟨c.pid⟩ := by
  rw [deletion?]
  cases c.registered <;> simp [eq_comm]

theorem Wire.deletion?_iff {w : Wire} {r : Deletion} :
    w.deletion? = some r ↔ w.fresh = false ∧ r = .wire ⟨w.producer,w.consumer⟩ := by
  rw [deletion?]
  cases w.fresh <;> simp [eq_comm]

theorem Deletion.pid?_iff {r : Deletion} {pid : String} :
    r.pid? = some pid ↔ r = .component ⟨pid⟩ := by
  cases r with
  | wire => simp [pid?]
  | component record => cases record; simp [pid?]

theorem Deletion.pair?_iff {r : Deletion} {pair : String × String} :
    r.pair? = some pair ↔ r = .wire ⟨pair.1,pair.2⟩ := by
  cases r with
  | wire record => cases record; simp [pair?,Prod.ext_iff]
  | component => simp [pair?]

namespace Ledger

-- Deletions come first, so that what is deleted and sent again stays.
def take (l : Ledger) (sent : Transaction) : Ledger where
  pids := (l.pids \ (sent.deletions.filterMap (·.pid?)).toFinset) ∪
    (sent.topology.components.map (·.entered)).toFinset
  pairs := (l.pairs \ (sent.deletions.filterMap (·.pair?)).toFinset) ∪
    (sent.topology.wires.map (·.pair)).toFinset

def hear (l : Ledger) (t : Trace) : Ledger :=
  match t.taken with
  | some sent => l.take sent
  | none => l

end Ledger

namespace Table
variable {α : Type} {t : Table α} {key : String} {value : α} {P : α → Prop}

theorem exists_insert (new : key ∉ t.keys) :
    (∃ e ∈ (t.insert key value).entries, P e.2) ↔ P value ∨ ∃ e ∈ t.entries, P e.2 := by
  rw [entries_insert_of_not_mem new]
  simp [or_and_right,exists_or,or_comm]

theorem exists_erase (stored : (key,value) ∈ t.entries) :
    (∃ e ∈ t.entries, P e.2) ↔ P value ∨ ∃ e ∈ (t.erase key).entries, P e.2 := by
  constructor
  · rintro ⟨⟨k,v⟩,here,holds⟩
    by_cases same : k = key
    · subst same
      exact .inl (entry_unique here stored ▸ holds)
    · exact .inr ⟨_,List.mem_filter.mpr ⟨here,bne_iff_ne.mpr same⟩,holds⟩
  · rintro (holds | ⟨e,left,holds⟩)
    · exact ⟨_,stored,holds⟩
    · exact ⟨e,(List.mem_filter.mp left).1,holds⟩

end Table

namespace Graph
variable {g after : Graph} {change : Change} {path : List Change} {r : Deletion}

-- What the graph has as committed.
def enrolled (g : Graph) : Ledger where
  pids := ((g.components.values.filter (·.registered)).map (·.pid)).toFinset
  pairs := ((g.wires.values.filter (!·.fresh)).map (·.pair)).toFinset

-- The same together with what the pending removals name.
def owed (g : Graph) : Ledger where
  pids := g.enrolled.pids ∪ (g.pending.deletions.filterMap (·.pid?)).toFinset
  pairs := g.enrolled.pairs ∪ (g.pending.deletions.filterMap (·.pair?)).toFinset

-- All pids and wires of the graph.
def census (g : Graph) : Ledger where
  pids := (g.components.values.map (·.pid)).toFinset
  pairs := (g.wires.values.map (·.pair)).toFinset

-- A registry has to replay `r` sooner or later: it is pending, or a component or wire would leave it.
def Owes (g : Graph) (r : Deletion) : Prop :=
  r ∈ g.pending.deletions ∨ (∃ e ∈ g.components.entries, e.2.deletion? = some r) ∨
    ∃ e ∈ g.wires.entries, e.2.deletion? = some r

theorem mem_owed_pids {pid : String} : pid ∈ g.owed.pids ↔ g.Owes (.component ⟨pid⟩) := by
  have enrolled : pid ∈ g.enrolled.pids ↔
      ∃ e ∈ g.components.entries, e.2.deletion? = some (.component ⟨pid⟩) := by
    simp only [Graph.enrolled,List.mem_toFinset,List.mem_map,List.mem_filter,Table.values,
      Component.deletion?_iff,Deletion.component.injEq,DeletedInstance.mk.injEq]
    constructor
    · rintro ⟨_,⟨⟨e,stored,rfl⟩,real⟩,same⟩
      exact ⟨e,stored,real,same.symm⟩
    · rintro ⟨e,stored,real,same⟩
      exact ⟨_,⟨⟨e,stored,rfl⟩,real⟩,same.symm⟩
  have pending : pid ∈ g.pending.deletions.filterMap (·.pid?) ↔
      .component ⟨pid⟩ ∈ g.pending.deletions := by
    simp only [List.mem_filterMap,Deletion.pid?_iff,exists_eq_right]
  rw [owed,Finset.mem_union,List.mem_toFinset,enrolled,pending,Owes]
  rw [or_comm]
  refine or_congr_right (or_iff_left ?_).symm
  rintro ⟨e,_,left⟩
  cases (Wire.deletion?_iff.mp left).2

theorem mem_owed_pairs {pair : String × String} :
    pair ∈ g.owed.pairs ↔ g.Owes (.wire ⟨pair.1,pair.2⟩) := by
  have enrolled : pair ∈ g.enrolled.pairs ↔
      ∃ e ∈ g.wires.entries, e.2.deletion? = some (.wire ⟨pair.1,pair.2⟩) := by
    simp only [Graph.enrolled,List.mem_toFinset,List.mem_map,List.mem_filter,Table.values,
      Wire.deletion?_iff,Deletion.wire.injEq,DeletedWire.mk.injEq,Bool.not_eq_true',Wire.pair]
    constructor
    · rintro ⟨_,⟨⟨e,stored,rfl⟩,known⟩,same⟩
      exact ⟨e,stored,known,same ▸ ⟨rfl,rfl⟩⟩
    · rintro ⟨e,stored,known,same⟩
      exact ⟨_,⟨⟨e,stored,rfl⟩,known⟩,Prod.ext same.1.symm same.2.symm⟩
  have pending : pair ∈ g.pending.deletions.filterMap (·.pair?) ↔
      .wire ⟨pair.1,pair.2⟩ ∈ g.pending.deletions := by
    simp only [List.mem_filterMap,Deletion.pair?_iff,exists_eq_right]
  rw [owed,Finset.mem_union,List.mem_toFinset,enrolled,pending,Owes]
  rw [or_comm]
  refine or_congr_right (or_iff_right ?_).symm
  rintro ⟨e,_,left⟩
  cases (Component.deletion?_iff.mp left).2

-- The graphs owe the same if a registry has to hold the same in the end.
theorem owed_congr (same : ∀ r, after.Owes r ↔ g.Owes r) : after.owed = g.owed := by
  ext x
  · rw [mem_owed_pids,mem_owed_pids,same]
  · rw [mem_owed_pairs,mem_owed_pairs,same]

-- What is new leaves nothing behind, and what goes leaves its record where it was.
theorem Moves.owes (move : Moves g change after)
    (ordered : ∀ spec, change = .placed spec → spec.pid = unregisteredPid)
    (spares : g.Spares g.drawn after.drawn) : after.Owes r ↔ g.Owes r := by
  unfold Owes
  cases move with
  | @placed spec =>
    have new : g.nextId ∉ g.components.keys :=
      (spares.next (Nat.lt_succ_self _)).1
    have nothing : (spec.withId g.nextId).deletion? ≠ some r := fun left =>
      Component.registered_iff.mp (Component.deletion?_iff.mp left).1 (ordered _ rfl)
    change r ∈ (g.pending.noteCreation _).deletions ∨
      (∃ e ∈ (g.components.insert g.nextId _).entries, _) ∨ _ ↔ _
    rw [Pending.noteCreation_deletions,Table.exists_insert (P := fun c => c.deletion? = some r) new,
      or_iff_right nothing]
    rfl
  | @connected producer consumer =>
    have new : g.nextId ∉ g.wires.keys := (spares.next (Nat.lt_succ_self _)).2
    have nothing : (⟨g.nextId,producer,consumer,true⟩ : Wire).deletion? ≠ some r := fun left =>
      nomatch (Wire.deletion?_iff.mp left).1
    change _ ∨ _ ∨ (∃ e ∈ (g.wires.insert g.nextId _).entries, _) ↔ _
    rw [Table.exists_insert (P := fun w => w.deletion? = some r) new,or_iff_right nothing]
    rfl
  | @cut w stored =>
    change r ∈ g.pending.deletions ++ w.deletion?.toList ∨ _ ∨
      (∃ e ∈ (g.wires.erase w.id).entries, _) ↔ _
    rw [Table.exists_erase (P := fun w => w.deletion? = some r) stored,List.mem_append,
      Option.mem_toList,or_assoc,or_left_comm (a := w.deletion? = some r)]
    rfl
  | @removed c stored =>
    change r ∈ g.pending.deletions ++ c.deletion?.toList ∨
      (∃ e ∈ (g.components.erase c.id).entries, _) ∨ _ ↔ _
    rw [Table.exists_erase (P := fun c => c.deletion? = some r) stored,List.mem_append,
      Option.mem_toList,or_assoc,or_assoc]
    rfl

theorem Runs.owes (runs : Runs g path after)
    (ordered : ∀ spec, .placed spec ∈ path → spec.pid = unregisteredPid)
    (spares : g.Spares g.drawn after.drawn) : after.Owes r ↔ g.Owes r := by
  induction runs with
  | nil => exact Iff.rfl
  | cons move rest ih =>
    have first := move.owes (r := r) (fun spec same => ordered spec (same ▸ List.mem_cons_self))
      (spares.narrow (Nat.le_refl _) rest.drawn_le)
    exact (ih (fun spec member => ordered spec (List.mem_cons_of_mem _ member))
      (move.spares spares)).trans first

-- Where everything is committed and nothing is pending, a registry has to hold it all.
theorem owed_census (none : g.pending = {})
    (registered : ∀ c ∈ g.components.values, c.registered = true)
    (known : ∀ w ∈ g.wires.values, w.fresh = false) : g.owed = g.census := by
  have components := List.filter_eq_self.mpr registered
  have wires : g.wires.values.filter (!·.fresh) = g.wires.values :=
    List.filter_eq_self.mpr fun w stored => by rw [known w stored]; rfl
  rw [owed,enrolled,components,wires,none]
  simp [census]

theorem enrolled_pids : g.enrolled.pids ⊆ (g.components.values.map (·.entered)).toFinset := by
  intro pid member
  simp only [enrolled,List.mem_toFinset,List.mem_map,List.mem_filter] at member ⊢
  obtain ⟨c,⟨stored,registered⟩,same⟩ := member
  exact ⟨c,stored,(if_neg (Component.registered_iff.mp registered)).trans same⟩

theorem enrolled_pairs : g.enrolled.pairs ⊆ (g.wires.values.map (·.pair)).toFinset := by
  intro pair member
  simp only [enrolled,List.mem_toFinset,List.mem_map,List.mem_filter] at member ⊢
  obtain ⟨w,⟨stored,_⟩,same⟩ := member
  exact ⟨w,stored,same⟩

-- Nothing is left of what was struck out but what is entered anyway.
theorem struck_entered {α : Type} [DecidableEq α] {enrolled struck entered : Finset α}
    (within : enrolled ⊆ entered) : (enrolled ∪ struck) \ struck ∪ entered = entered := by
  rw [Finset.union_sdiff_right]
  exact Finset.union_eq_right.mpr (Finset.sdiff_subset.trans within)

-- A registry that has what it has to hold makes of the graph's transaction all the pids and wires
-- that the graph will have once it is committed.
theorem take_owed (g : Graph) : g.owed.take g.transaction =
    ⟨(g.components.values.map (·.entered)).toFinset,(g.wires.values.map (·.pair)).toFinset⟩ :=
  Ledger.ext (struck_entered enrolled_pids) (struck_entered enrolled_pairs)

end Graph

namespace Session
variable {s final : Session} {t : Trace} {traces : List Trace}

theorem Settles.census (settles : Settles s t) :
    s.graph.owed.hear t = t.after.graph.census := by
  rw [Ledger.hear,settles.taken]
  refine (Graph.take_owed s.graph).trans ?_
  rw [Graph.census,settles.components_eq,settles.wires_eq,List.map_map,List.map_map]
  rfl

-- A registry that has what it has to hold keeps having it, whatever the editor does.
theorem Turn.owed (turn : Turn s t) (opened : t.after.closed = false)
    (spares : s.graph.Spares s.graph.drawn t.after.graph.drawn)
    (named : ∀ c ∈ s.graph.components.values, c.pid = unregisteredPid → c.name ≠ unregisteredPid) :
    s.graph.owed.hear t = t.after.graph.owed := by
  cases accepted : t.accepted with
  | true =>
    have settles := turn.settles accepted
    rw [settles.census]
    exact (Graph.owed_census settles.pending (settles.registered_iff.mpr named) settles.known).symm
  | false =>
    have unheard : s.graph.owed.hear t = s.graph.owed := by
      rw [Ledger.hear,Trace.taken,if_neg (by simp [accepted])]
    rw [unheard]
    rcases turn.unsettled opened accepted with after | ⟨e,graph,ordered,runs,after⟩
    · rw [after]
    · rw [after] at spares ⊢
      exact (Graph.owed_congr fun r =>
        runs.owes (fun spec placed => changes_ordered ordered placed) spares).symm

theorem Turns.owed (turns : Turns s traces final) (opened : final.closed = false)
    (spares : s.graph.Spares s.graph.drawn final.graph.drawn)
    (named : ∀ x ∈ s :: traces.map (·.after), ∀ c ∈ x.graph.components.values,
      c.pid = unregisteredPid → c.name ≠ unregisteredPid) :
    traces.foldl Ledger.hear s.graph.owed = final.graph.owed := by
  induction turns with
  | nil => rfl
  | cons turn rest ih =>
    have first := turn.owed (rest.opened opened) (spares.narrow (Nat.le_refl _) rest.drawn_le)
      (named _ List.mem_cons_self)
    rw [List.foldl_cons,first]
    exact ih opened (turn.spares spares) fun x member => named x (List.mem_cons_of_mem _ member)

theorem Turns.census {front : List Trace} (turns : Turns s (front ++ [t]) final)
    (accepted : t.accepted = true) (spares : s.graph.Spares s.graph.drawn final.graph.drawn)
    (named : ∀ x ∈ s :: (front ++ [t]).map (·.after), ∀ c ∈ x.graph.components.values,
      c.pid = unregisteredPid → c.name ≠ unregisteredPid) :
    (front ++ [t]).foldl Ledger.hear s.graph.owed = final.graph.census := by
  obtain ⟨before,last⟩ := turns.split
  obtain _ | ⟨turn,nothing⟩ := last
  cases nothing
  have settles := turn.settles accepted
  have inside : s :: front.map (·.after) ⊆ s :: (front ++ [t]).map (·.after) :=
    List.cons_subset_cons _ (List.map_subset _ (List.subset_append_left _ _))
  rw [List.foldl_append,before.owed settles.opened (spares.narrow (Nat.le_refl _) turn.drawn_le)
    fun x member => named x (inside member)]
  exact settles.census

theorem books_in_step {snapshot : Snapshot} {settings : Settings} {supply : List String}
    (started : Session.start snapshot settings supply = .ok s) {actions : List Action}
    (editorial : ∀ a ∈ actions, a.editorial = true) (stops : Bool)
    (spares : s.graph.Spares s.graph.drawn (s.runAll stops actions).after.graph.drawn)
    (named : ∀ x ∈ s :: (s.runAll stops actions).traces.map (·.after),
      ∀ c ∈ x.graph.components.values, c.pid = unregisteredPid → c.name ≠ unregisteredPid)
    {earlier later : List Trace} (run : (s.runAll stops actions).traces = earlier ++ later) :
    let x := s.reached earlier
    let books := earlier.foldl Ledger.hear s.graph.enrolled
    (∀ t ∈ earlier.getLast?, t.accepted = true → books = x.graph.census) ∧
      (x.closed = false → books = x.graph.owed) := by
  obtain ⟨keyed,none,_⟩ := start_quiet started
  have opening : s.graph.enrolled = s.graph.owed := by
    ext x <;> simp [Graph.owed,none]
  have turns := run_turns keyed editorial stops
  rw [run] at turns named
  obtain ⟨before,onward⟩ := turns.split
  have inside : s :: earlier.map (·.after) ⊆ s :: (earlier ++ later).map (·.after) :=
    List.cons_subset_cons _ (List.map_subset _ (List.subset_append_left _ _))
  have named := fun x member => named x (inside member)
  have spares := spares.narrow (Nat.le_refl _) onward.drawn_le
  rw [opening]
  refine ⟨fun t last accepted => ?_,fun opened => before.owed opened spares named⟩
  obtain ⟨front,rfl⟩ := List.getLast?_eq_some_iff.mp last
  exact before.census accepted spares named

-- The books after the accepted save, and at the end, when two of its components are gone and the
-- registry would not hear of it.
theorem shift_books :
    let opening := shift.graph.enrolled
    let course := shift.runAll false shiftRun
    let morning := (shift.runAll false (shiftRun.take 2)).traces ++ [shiftSave]
    Session.start handover {} = .ok shift ∧ (∀ a ∈ shiftRun, a.editorial = true) ∧
      shift.graph.Spares shift.graph.drawn course.after.graph.drawn ∧
      (∀ x ∈ shift :: course.traces.map (·.after), ∀ c ∈ x.graph.components.values,
        c.pid = unregisteredPid → c.name ≠ unregisteredPid) ∧
      morning.foldl Ledger.hear opening = shiftSave.after.graph.census ∧
      course.traces.foldl Ledger.hear opening = course.after.graph.owed ∧
      course.after.graph.owed.pids = {"p","B","q","D"} ∧
      course.after.graph.enrolled.pids = {"B","q"} := by
  have started : Session.start handover {} = .ok shift := by decide +kernel
  have editorial : ∀ a ∈ shiftRun, a.editorial = true := by decide
  have spares : shift.graph.Spares shift.graph.drawn
      (shift.runAll false shiftRun).after.graph.drawn := by decide +kernel
  have named : ∀ x ∈ shift :: (shift.runAll false shiftRun).traces.map (·.after),
      ∀ c ∈ x.graph.components.values, c.pid = unregisteredPid → c.name ≠ unregisteredPid := by
    decide +kernel
  have parts : (shift.runAll false shiftRun).traces =
      ((shift.runAll false (shiftRun.take 2)).traces ++ [shiftSave]) ++
        (shiftSave.after.runAll false (shiftRun.drop 3)).traces := rfl
  have morning := books_in_step started editorial false spares named parts
  have evening := books_in_step started editorial false spares named (List.append_nil _).symm
  refine ⟨started,editorial,spares,named,?_,?_,by decide +kernel,by decide +kernel⟩
  · exact morning.1 shiftSave List.getLast?_concat (by decide +kernel)
  · exact evening.2 (by decide +kernel)

end Session

end WireGraph
