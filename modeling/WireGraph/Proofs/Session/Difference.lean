import Mathlib.Data.List.Nodup
import WireGraph.Proofs.Session.Run

/-!
# What is pending

What is pending in a session, against its baseline: the graph right after the session was started or
right after the last accepted save. Main statement: whatever an editor does, in whatever order and
with whatever refusals, the pending removals are those of the components and wires that the baseline
has and the graph has not, each once, and the pending creations are the components that the graph has
and the baseline has not.
-/

namespace WireGraph

namespace Table
variable {α : Type} {base now : Table α} {key : String} {value : α} {f : α → Option Deletion}

-- What the records of `base` leave to be replayed when `now` has nothing under their keys.
def lost (f : α → Option Deletion) (base now : Table α) : List Deletion :=
  base.entries.filterMap fun e => if now.contains e.1 then none else f e.2

theorem lost_self (f : α → Option Deletion) (base : Table α) : lost f base base = [] := by
  refine List.filterMap_eq_nil_iff.mpr fun e stored => ?_
  rw [if_pos (contains_iff.mpr (key_mem stored))]

-- Only the keys of `base` count.
theorem lost_congr {other : Table α}
    (same : ∀ k ∈ base.keys, now.contains k = other.contains k) :
    lost f base now = lost f base other :=
  List.filterMap_congr fun e stored => by rw [same e.1 (key_mem stored)]

theorem lost_insert (new : key ∉ base.keys) :
    lost f base (now.insert key value) = lost f base now := by
  refine lost_congr fun k old => ?_
  have other : k ≠ key := fun same => new (same ▸ old)
  rw [Bool.eq_iff_iff,contains_iff,contains_iff,mem_keys_insert]
  simp [other]

theorem lost_erase_new (new : key ∉ base.keys) : lost f base (now.erase key) = lost f base now := by
  refine lost_congr fun k old => ?_
  have other : k ≠ key := fun same => new (same ▸ old)
  rw [Bool.eq_iff_iff,contains_iff,contains_iff,mem_keys_erase]
  simp [other]

-- The record stands somewhere in the table, and nothing before or after it is under its key.
theorem entries_perm {t : Table α} (stored : (key,value) ∈ t.entries) :
    t.entries.Perm ((key,value) :: (t.erase key).entries) := by
  obtain ⟨before,behind,split⟩ := List.append_of_mem stored
  have distinct := t.distinct
  rw [split,List.map_append,List.map_cons,List.nodup_middle,List.nodup_cons,
    ← List.map_append] at distinct
  have others : (before ++ behind).filter (fun e => e.1 != key) = before ++ behind := by
    refine List.filter_eq_self.mpr fun e member => bne_iff_ne.mpr ?_
    rintro rfl
    exact distinct.1 (List.mem_map.mpr ⟨e,member,rfl⟩)
  have left : (t.erase key).entries = before ++ behind := by
    rw [entries_erase,split,List.filter_append,List.filter_cons_of_neg (by simp),
      ← List.filter_append,others]
  rw [left,split]
  exact List.perm_middle

theorem lost_cons (f : α → Option Deletion) (now : Table α) (stored : (key,value) ∈ base.entries) :
    (lost f base now).Perm
      ((if now.contains key then none else f value).toList ++ lost f (base.erase key) now) := by
  refine ((entries_perm stored).filterMap _).trans ?_
  unfold lost
  rw [List.filterMap_cons]
  cases if now.contains key then none else f value with
  | none => exact .refl _
  | some record => exact .refl _

theorem lost_erase (stored : (key,value) ∈ base.entries) (present : key ∈ now.keys) :
    (lost f base (now.erase key)).Perm (lost f base now ++ (f value).toList) := by
  have gone : (now.erase key).contains key = false := by
    rw [Bool.eq_false_iff]
    exact fun still => (mem_keys_erase.mp (contains_iff.mp still)).2 rfl
  have rest : lost f (base.erase key) (now.erase key) = lost f (base.erase key) now :=
    lost_erase_new fun still => (mem_keys_erase.mp still).2 rfl
  have before : (lost f base now).Perm (lost f (base.erase key) now) := by
    simpa [contains_iff.mpr present] using lost_cons f now stored
  have after : (lost f base (now.erase key)).Perm
      ((f value).toList ++ lost f (base.erase key) now) := by
    simpa [gone,rest] using lost_cons f (now.erase key) stored
  exact after.trans (List.perm_append_comm.trans (before.symm.append_right _))

end Table

namespace Graph
variable {base g after : Graph} {change : Change} {path : List Change}

-- The removals that lead from the components and wires of `base` to those of `g`, as far as a registry
-- knows them.
def removals (base g : Graph) : List Deletion :=
  ((base.components.values.filter fun c => c.pid != unregisteredPid && !g.contains c.id).map
      fun c => .component ⟨c.pid⟩) ++
    (base.wires.values.filter fun w => !w.fresh && !g.wires.contains w.id).map
      fun w => .wire ⟨w.producer,w.consumer⟩

theorem Keyed.removals (keyed : base.Keyed) (g : Graph) :
    base.removals g = base.components.lost (·.deletion?) g.components ++
      base.wires.lost (·.deletion?) g.wires := by
  unfold Graph.removals Table.lost Table.values
  rw [List.filter_map,List.filter_map,List.map_map,List.map_map,← List.filterMap_eq_map,
    ← List.filterMap_eq_map,List.filterMap_filter,List.filterMap_filter]
  congr 1
  · refine List.filterMap_congr fun e stored => ?_
    simp only [Function.comp,Component.deletion?,Component.registered,contains,
      keyed.components e stored]
    by_cases present : g.components.contains e.1 = true <;> simp [present]
  · refine List.filterMap_congr fun e stored => ?_
    simp only [Function.comp,Wire.deletion?,keyed.wires e stored]
    cases e.2.fresh <;> cases g.wires.contains e.1 <;> rfl

-- The graph against its baseline: each of its records is one of the baseline, or a new one that no
-- registry knows, and what is pending is the difference. Both draw their ids from one supply.
structure Tracks (base g : Graph) : Prop where
  supply : base.supply = g.supply
  component : ∀ e ∈ g.components.entries, e ∈ base.components.entries ∨
    e.1 ∉ base.components.keys ∧ e.2.registered = false
  wire : ∀ e ∈ g.wires.entries, e ∈ base.wires.entries ∨ e.1 ∉ base.wires.keys ∧ e.2.fresh = true
  deletions : g.pending.deletions.Perm (base.components.lost (·.deletion?) g.components ++
    base.wires.lost (·.deletion?) g.wires)
  creations : ∀ id, id ∈ g.pending.creations ↔ id ∈ g.components.keys ∧ id ∉ base.components.keys
  once : g.pending.creations.Nodup

-- With nothing pending a graph is its own baseline.
theorem Tracks.refl (none : g.pending = {}) : g.Tracks g where
  supply := rfl
  component := fun _ stored => .inl stored
  wire := fun _ stored => .inl stored
  deletions := by rw [none,Table.lost_self,Table.lost_self]; exact .refl _
  creations := fun id => by rw [none]; exact ⟨fun no => (nomatch no),fun apart => absurd apart.1 apart.2⟩
  once := by rw [none]; exact .nil

theorem noteCreation_unregistered {p : Pending} {c : Component} (unregistered : c.registered = false) :
    (∀ id, id ∈ (p.noteCreation c).creations ↔ id ∈ p.creations ∨ id = c.id) ∧
      (p.creations.Nodup → (p.noteCreation c).creations.Nodup) := by
  unfold Pending.noteCreation
  rw [unregistered,Bool.false_or]
  split
  · rename_i known
    have known : c.id ∈ p.creations := by simpa using known
    refine ⟨fun id => ⟨.inl,?_⟩,fun once => once⟩
    rintro (old | rfl)
    · exact old
    · exact known
  · rename_i unknown
    have unknown : c.id ∉ p.creations := by simpa using unknown
    refine ⟨fun id => by simp,fun once => ?_⟩
    exact List.nodup_append.mpr ⟨once,by simp,by
      rintro a old b last rfl
      rw [List.mem_singleton.mp last] at old
      exact unknown old⟩

theorem Tracks.placed {spec : NewComponent} (tracks : base.Tracks g)
    (ordered : spec.pid = unregisteredPid) (new : g.nextId ∉ base.components.keys) :
    base.Tracks (g.placed spec) := by
  have unregistered : (spec.withId g.nextId).registered = false :=
    Component.unregistered_iff.mpr ordered
  obtain ⟨creations,once⟩ := noteCreation_unregistered (p := g.pending) unregistered
  refine ⟨tracks.supply,?_,tracks.wire,?_,?_,once tracks.once⟩
  · intro e stored
    rcases Table.mem_insert.mp stored with rfl | ⟨old,_⟩
    · exact .inr ⟨new,unregistered⟩
    · exact tracks.component e old
  · change (g.pending.noteCreation (spec.withId g.nextId)).deletions.Perm
      (base.components.lost _ (g.components.insert g.nextId _) ++ _)
    rw [Pending.noteCreation_deletions,Table.lost_insert new]
    exact tracks.deletions
  · intro id
    refine (creations id).trans ?_
    change id ∈ g.pending.creations ∨ id = g.nextId ↔
      id ∈ (g.components.insert g.nextId (spec.withId g.nextId)).keys ∧ _
    rw [tracks.creations,Table.mem_keys_insert]
    constructor
    · rintro (⟨here,apart⟩ | rfl)
      · exact ⟨.inl here,apart⟩
      · exact ⟨.inr rfl,new⟩
    · rintro ⟨here | rfl,apart⟩
      · exact .inl ⟨here,apart⟩
      · exact .inr rfl

theorem Tracks.connected {producer consumer : String} (tracks : base.Tracks g)
    (new : g.nextId ∉ base.wires.keys) : base.Tracks (g.connected producer consumer) := by
  refine ⟨tracks.supply,tracks.component,?_,?_,tracks.creations,tracks.once⟩
  · intro e stored
    rcases Table.mem_insert.mp stored with rfl | ⟨old,_⟩
    · exact .inr ⟨new,rfl⟩
    · exact tracks.wire e old
  · change g.pending.deletions.Perm (_ ++ base.wires.lost _ (g.wires.insert g.nextId _))
    rw [Table.lost_insert new]
    exact tracks.deletions

-- A wire of the baseline leaves its record, a new one leaves nothing.
theorem Tracks.cut {w : Wire} (tracks : base.Tracks g) (stored : (w.id,w) ∈ g.wires.entries) :
    base.Tracks (g.withoutWire w) := by
  refine ⟨tracks.supply,tracks.component,fun e left => tracks.wire e (List.mem_filter.mp left).1,?_,
    tracks.creations,tracks.once⟩
  have leaves : (base.wires.lost (·.deletion?) (g.wires.erase w.id)).Perm
      (base.wires.lost (·.deletion?) g.wires ++ w.deletion?.toList) := by
    rcases tracks.wire _ stored with old | ⟨new,fresh⟩
    · exact Table.lost_erase old (Table.key_mem stored)
    · have nothing : w.deletion? = none := by rw [Wire.deletion?,if_pos fresh]
      rw [Table.lost_erase_new new,nothing]
      simp
  change (g.pending.deletions ++ w.deletion?.toList).Perm
    (_ ++ base.wires.lost _ (g.wires.erase w.id))
  refine (tracks.deletions.append_right _).trans ?_
  rw [List.append_assoc]
  exact leaves.symm.append_left _

theorem Tracks.removed {c : Component} (tracks : base.Tracks g)
    (stored : (c.id,c) ∈ g.components.entries) : base.Tracks (g.withoutComponent c.id c) := by
  refine ⟨tracks.supply,fun e left => tracks.component e (List.mem_filter.mp left).1,tracks.wire,?_,?_,
    tracks.once.filter _⟩
  · have leaves : (base.components.lost (·.deletion?) (g.components.erase c.id)).Perm
        (base.components.lost (·.deletion?) g.components ++ c.deletion?.toList) := by
      rcases tracks.component _ stored with old | ⟨new,unregistered⟩
      · exact Table.lost_erase old (Table.key_mem stored)
      · have nothing : c.deletion? = none := by
          rw [Component.deletion?,unregistered]
          rfl
        rw [Table.lost_erase_new new,nothing]
        simp
    change (g.pending.deletions ++ c.deletion?.toList).Perm
      (base.components.lost _ (g.components.erase c.id) ++ base.wires.lost _ g.wires)
    refine (tracks.deletions.append_right _).trans ?_
    refine List.Perm.trans ?_ (leaves.symm.append_right _)
    rw [List.append_assoc,List.append_assoc]
    exact List.perm_append_comm.append_left _
  · intro id
    change id ∈ g.pending.creations.filter (· != c.id) ↔ id ∈ (g.components.erase c.id).keys ∧ _
    rw [List.mem_filter,tracks.creations,Table.mem_keys_erase,bne_iff_ne]
    constructor
    · rintro ⟨⟨here,apart⟩,other⟩
      exact ⟨⟨here,other⟩,apart⟩
    · rintro ⟨⟨here,other⟩,apart⟩
      exact ⟨⟨here,apart⟩,other⟩

-- The id that comes next is none of the baseline's.
theorem Tracks.next {upto : Nat} (tracks : base.Tracks g) (apart : base.Spares g.drawn upto)
    (later : g.drawn < upto) : g.nextId ∉ base.components.keys ∧ g.nextId ∉ base.wires.keys := by
  rw [nextId,drawnId,← tracks.supply]
  exact apart.unused _ later (Nat.lt_succ_self _)

theorem Moves.tracks (move : Moves g change after)
    (ordered : ∀ spec, change = .placed spec → spec.pid = unregisteredPid)
    (apart : base.Spares g.drawn after.drawn) (tracks : base.Tracks g) : base.Tracks after := by
  cases move with
  | placed =>
    exact tracks.placed (ordered _ rfl) (tracks.next apart (Nat.lt_succ_self _)).1
  | connected => exact tracks.connected (tracks.next apart (Nat.lt_succ_self _)).2
  | cut stored => exact tracks.cut stored
  | removed stored => exact tracks.removed stored

theorem Runs.tracks (runs : Runs g path after)
    (ordered : ∀ spec, .placed spec ∈ path → spec.pid = unregisteredPid)
    (apart : base.Spares g.drawn after.drawn) (tracks : base.Tracks g) : base.Tracks after := by
  induction runs with
  | nil => exact tracks
  | cons move rest ih =>
    have first := move.tracks (fun spec same => ordered spec (same ▸ List.mem_cons_self))
      (apart.narrow (Nat.le_refl _) rest.drawn_le) tracks
    exact ih (fun spec member => ordered spec (List.mem_cons_of_mem _ member))
      (apart.narrow move.drawn_le (Nat.le_refl _)) first

end Graph

namespace Session
variable {s final : Session} {t : Trace} {traces : List Trace} {base : Graph}

-- The graph that the registry last agreed to: the one at the start, or right after the last accepted
-- save.
def baseline (start : Graph) : List Trace → Graph
  | [] => start
  | t :: rest => baseline (if t.accepted then t.after.graph else start) rest

theorem Turn.tracks (turn : Turn s t) (opened : t.after.closed = false)
    (apart : base.Spares s.graph.drawn t.after.graph.drawn) (tracks : base.Tracks s.graph) :
    Graph.Tracks (if t.accepted then t.after.graph else base) t.after.graph := by
  cases turn with
  | kept after unsent open_end => rwa [open_end,after]
  | edited _ ordered runs after unsent open_end =>
    rw [after] at apart
    have made := runs.tracks (fun spec placed => changes_ordered ordered placed) apart tracks
    rw [open_end,after]
    exact ⟨made.supply,made.component,made.wire,made.deletions,made.creations,made.once⟩
  | closed after => rw [after] at opened; cases opened
  | failed _ checked after sent open_end =>
    rcases after with after | after
    · rwa [open_end,after]
    · rw [after] at opened; cases opened
  | saved _ checked after sent accepted =>
    rcases after with after | after
    · rw [accepted,after]
      exact .refl rfl
    · rw [after] at opened; cases opened

-- The baseline changes at an accepted save only, and the graph of that moment takes its place.
theorem Turns.tracks (turns : Turns s traces final) (opened : final.closed = false)
    (keyed : s.graph.Keyed) (based : base.Keyed)
    (apart : base.Spares s.graph.drawn final.graph.drawn)
    (spares : s.graph.Spares s.graph.drawn final.graph.drawn) (tracks : base.Tracks s.graph) :
    (baseline base traces).Tracks final.graph ∧ (baseline base traces).Keyed := by
  induction turns generalizing base with
  | nil => exact ⟨tracks,based⟩
  | cons turn rest ih =>
    have next := turn.tracks (rest.opened opened) (apart.narrow (Nat.le_refl _) rest.drawn_le) tracks
    have later := turn.spares spares
    rw [baseline]
    split at next
    · rename_i accepted
      rw [if_pos accepted]
      exact ih opened (turn.keyed keyed) (turn.keyed keyed) later later next
    · rename_i open_end
      rw [if_neg open_end]
      exact ih opened (turn.keyed keyed) based (apart.narrow turn.drawn_le (Nat.le_refl _)) later next

-- Registrations are no edits: nothing of them is pending when they carry real pids.
theorem start_clean {snapshot : Snapshot} {settings : Settings} {supply : List String}
    (started : Session.start snapshot settings supply = .ok s)
    (real : ∀ r ∈ snapshot.components, r.pid ≠ unregisteredPid) :
    s.graph.Keyed ∧ s.graph.pending = {} := by
  obtain ⟨grown,done,rfl⟩ := start_parts started
  have parts : grown.Keyed ∧ grown.pending = {} := by
    refine reconcile_preserves (P := fun g => g.Keyed ∧ g.pending = {}) ?_ done
      ⟨Graph.restore_keyed _ _ _ _,rfl⟩
    intro g r member _ move kept
    refine ⟨move.keyed kept.1,?_⟩
    have registered : (r.request.withId g.nextId).registered = true :=
      Component.registered_iff.mpr (real r member)
    change g.pending.noteCreation _ = {}
    rw [Pending.noteCreation,registered]
    exact kept.2
  exact ⟨⟨parts.1.components,parts.1.wires⟩,parts.2⟩

theorem pending_exact {snapshot : Snapshot} {settings : Settings} {supply : List String}
    (started : Session.start snapshot settings supply = .ok s)
    (real : ∀ r ∈ snapshot.components, r.pid ≠ unregisteredPid) {actions : List Action}
    (editorial : ∀ a ∈ actions, a.editorial = true) (stops : Bool)
    (opened : (s.runAll stops actions).after.closed = false)
    (spares : s.graph.Spares s.graph.drawn (s.runAll stops actions).after.graph.drawn) :
    let course := s.runAll stops actions
    let base := baseline s.graph course.traces
    let g := course.after.graph
    g.pending.deletions.Perm (base.removals g) ∧
      g.pending.creations.Nodup ∧
      ∀ id, id ∈ g.pending.creations ↔ g.contains id = true ∧ base.contains id = false := by
  obtain ⟨keyed,none⟩ := start_clean started real
  obtain ⟨tracks,based⟩ := (run_turns keyed editorial stops).tracks opened keyed keyed spares
    spares (.refl none)
  refine ⟨?_,tracks.once,fun id => (tracks.creations id).trans ?_⟩
  · rw [based.removals]
    exact tracks.deletions
  · rw [Graph.contains,Graph.contains,Bool.eq_false_iff,Ne,Table.contains_iff,Table.contains_iff]

theorem shift_pending :
    let course := shift.runAll false shiftRun
    let base := baseline shift.graph course.traces
    let g := course.after.graph
    Session.start handover {} = .ok shift ∧
      g.pending.deletions = [.wire ⟨"a","b"⟩,.component ⟨"p"⟩,.component ⟨"D"⟩] ∧
      g.pending.deletions.Perm (base.removals g) ∧ g.pending.creations = ["id-4"] ∧
      ∀ id, id ∈ g.pending.creations ↔ g.contains id = true ∧ base.contains id = false := by
  have started : Session.start handover {} = .ok shift := by decide +kernel
  have editorial : ∀ a ∈ shiftRun, a.editorial = true := by decide
  obtain ⟨removals,_,creations⟩ := pending_exact started (by decide) editorial false
    (by decide +kernel) (by decide +kernel)
  exact ⟨started,by decide +kernel,removals,by decide +kernel,creations⟩

end Session

end WireGraph
