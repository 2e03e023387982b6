import Mathlib.Data.List.Nodup
import WireGraph.Proofs.Cycle.Search
import WireGraph.Proofs.Session.Run

/-!
# Who holds a pid

A save registers every component, under its name if it had no pid, so a name is a pid to come. Main
statement: in every state that an editor can reach the pids tell the registered components apart
exactly when, in the graph that the session starts with, no unregistered component is named like the
pid of a registered one. Edits and saves keep that; reconciling need not, since a registration is put
beside the stored components whatever they are called.
-/

namespace WireGraph
open Relation

namespace Table
variable {α : Type} {t : Table α} {alike : α → α → Prop} {key : String} {value : α}

-- Records that are alike are one.
def Tells (alike : α → α → Prop) (t : Table α) : Prop :=
  ∀ e ∈ t.entries, ∀ d ∈ t.entries, alike e.2 d.2 → e.1 = d.1

theorem Tells.insert (tells : t.Tells alike)
    (new : ∀ e ∈ t.entries, ¬alike e.2 value ∧ ¬alike value e.2) :
    (t.insert key value).Tells alike := by
  intro e first d second same
  rcases mem_insert.mp first with rfl | ⟨old,_⟩
  · rcases mem_insert.mp second with rfl | ⟨before,_⟩
    · rfl
    · exact absurd same (new d before).2
  · rcases mem_insert.mp second with rfl | ⟨before,_⟩
    · exact absurd same (new e old).1
    · exact tells e old d before same

theorem Tells.filter (tells : t.Tells alike) (keep : String × α → Bool) :
    (t.filter keep).Tells alike :=
  fun e first d second => tells e (List.mem_filter.mp first).1 d (List.mem_filter.mp second).1

theorem Tells.mapValues {h : α → α} (same : ∀ a b, alike (h a) (h b) → alike a b)
    (tells : t.Tells alike) : (t.mapValues h).Tells alike := by
  rintro _ first _ second equal
  obtain ⟨e,old,rfl⟩ := List.mem_map.mp first
  obtain ⟨d,before,rfl⟩ := List.mem_map.mp second
  exact tells e old d before (same _ _ equal)

theorem tells_of_nodup {f : α → String} {keep : α → Bool}
    (distinct : ((t.values.filter keep).map f).Nodup) :
    t.Tells fun a b => keep a = true ∧ keep b = true ∧ f a = f b := by
  rintro e first d second ⟨left,right,same⟩
  rw [values,List.filter_map,List.map_map] at distinct
  exact congrArg Prod.fst (List.inj_on_of_nodup_map distinct (List.mem_filter.mpr ⟨first,left⟩)
    (List.mem_filter.mpr ⟨second,right⟩) same)

end Table

namespace Graph
variable {g after : Graph} {change : Change} {path : List Change} {spec : NewComponent}

-- What the name or the pid of a new component is checked against.
theorem named_none {name : String} :
    g.named? name = none ↔ ∀ e ∈ g.components.entries, e.2.name ≠ name := by
  simp [named?,Table.values]

theorem registeredAs_none {pid : String} :
    g.registeredAs? pid = none ↔
      pid = unregisteredPid ∨ ∀ e ∈ g.components.entries, e.2.pid ≠ pid := by
  unfold registeredAs?
  split
  · rename_i same
    simp [same]
  · rename_i real
    simp [real,Table.values]

theorem checkPlace_name (admitted : g.checkPlace spec = .ok ()) :
    (∀ e ∈ g.components.entries, e.2.name ≠ spec.name) ∧
      (spec.pid = unregisteredPid → g.registeredAs? spec.name = none) := by
  obtain ⟨_,_,unnamed,registry⟩ := checkPlace_iff.mp admitted
  exact ⟨named_none.mp unnamed,fun unregistered => (registry unregistered).1⟩

-- Names and coming pids tell the components apart, and no removal that is pending is for one of them.
structure Apart (g : Graph) : Prop where
  names : g.components.Tells fun a b => a.name = b.name
  pids : g.components.Tells fun a b => a.committed.pid = b.committed.pid
  gone : ∀ e ∈ g.components.entries, e.2.registered = true →
    .component ⟨e.2.pid⟩ ∉ g.pending.deletions

theorem Apart.registered (apart : g.Apart) {e d : String × Component}
    (first : e ∈ g.components.entries) (second : d ∈ g.components.entries)
    (real : e.2.pid ≠ unregisteredPid) (same : e.2.pid = d.2.pid) : e.1 = d.1 := by
  have other : d.2.pid ≠ unregisteredPid := same ▸ real
  have shared : e.2.committed.pid = d.2.committed.pid := by
    rw [Component.committed_registered (Component.registered_iff.mpr real),
      Component.committed_registered (Component.registered_iff.mpr other),same]
  exact apart.pids e first d second shared

-- The pid under which a new component will be registered is its name, which is neither the pid nor
-- the name of another.
theorem Apart.placed (apart : g.Apart) (admitted : g.checkPlace spec = .ok ())
    (ordered : spec.pid = unregisteredPid) : (g.placed spec).Apart := by
  obtain ⟨unnamed,unheld⟩ := checkPlace_name admitted
  have unregistered : (spec.withId g.nextId).registered = false :=
    Component.unregistered_iff.mpr ordered
  refine ⟨apart.names.insert fun e stored => ⟨unnamed e stored,(unnamed e stored).symm⟩,
    apart.pids.insert fun e stored => ?_,?_⟩
  · suffices other : e.2.committed.pid ≠ (spec.withId g.nextId).committed.pid from
      ⟨other,other.symm⟩
    intro same
    rw [Component.committed_pid unregistered] at same
    cases registered : e.2.registered with
    | false => exact unnamed e stored ((Component.committed_pid registered).symm.trans same)
    | true =>
      rw [Component.committed_registered registered] at same
      rcases registeredAs_none.mp (unheld ordered) with none | free
      · exact Component.registered_iff.mp registered (same.trans none)
      · exact free e stored same
  · intro e stored registered
    change _ ∉ (g.pending.noteCreation (spec.withId g.nextId)).deletions
    rw [Pending.noteCreation_deletions]
    rcases Table.mem_insert.mp stored with rfl | ⟨old,_⟩
    · rw [unregistered] at registered
      cases registered
    · exact apart.gone e old registered

theorem Apart.cut (apart : g.Apart) (w : Wire) : (g.withoutWire w).Apart := by
  refine ⟨apart.names,apart.pids,fun e stored registered pending => ?_⟩
  rcases List.mem_append.mp pending with old | new
  · exact apart.gone e stored registered old
  · unfold Wire.deletion? at new
    split at new <;> simp at new

theorem Apart.removed (apart : g.Apart) {c : Component} (here : (c.id,c) ∈ g.components.entries) :
    (g.withoutComponent c.id c).Apart := by
  refine ⟨apart.names.filter _,apart.pids.filter _,fun e stored registered pending => ?_⟩
  obtain ⟨old,other⟩ := List.mem_filter.mp stored
  rcases List.mem_append.mp pending with before | new
  · exact apart.gone e old registered before
  · unfold Component.deletion? at new
    split at new
    · have same : e.2.pid = c.pid := by simpa using new
      have key := apart.registered old here (Component.registered_iff.mp registered) same
      exact absurd key (bne_iff_ne.mp other)
    · simp at new

theorem Apart.settle (apart : g.Apart) : g.settle.Apart := by
  refine ⟨apart.names.mapValues fun a b same => ?_,apart.pids.mapValues fun a b same => ?_,
    fun _ _ _ pending => by cases pending⟩
  · rwa [Component.committed_name,Component.committed_name] at same
  · rwa [Component.committed_twice,Component.committed_twice] at same

theorem Moves.apart (move : Moves g change after)
    (ordered : ∀ spec, change = .placed spec → spec.pid = unregisteredPid) (apart : g.Apart) :
    after.Apart := by
  cases move with
  | placed admitted => exact apart.placed admitted (ordered _ rfl)
  | connected => exact ⟨apart.names,apart.pids,apart.gone⟩
  | cut => exact apart.cut _
  | removed stored => exact apart.removed stored

-- What a status report needs: a pid that a component has leads to that component, and to no other.
structure Unambiguous (g : Graph) : Prop where
  pids : ((g.components.values.filter fun c => c.pid != unregisteredPid).map (·.pid)).Nodup
  found : ∀ c ∈ g.components.values, c.pid ≠ unregisteredPid → g.registeredAs? c.pid = some c
  gone : ∀ c ∈ g.components.values, c.pid ≠ unregisteredPid →
    .component ⟨c.pid⟩ ∉ g.pending.deletions

-- No unregistered component is named like the pid of a registered one.
def Unshadowed (g : Graph) : Prop :=
  ∀ c ∈ g.components.values, ∀ d ∈ g.components.values,
    c.pid = unregisteredPid → d.pid ≠ unregisteredPid → c.name ≠ d.pid

instance (g : Graph) : Decidable g.Unshadowed :=
  inferInstanceAs (Decidable (∀ c ∈ g.components.values, ∀ d ∈ g.components.values,
    c.pid = unregisteredPid → d.pid ≠ unregisteredPid → c.name ≠ d.pid))

theorem Apart.unambiguous (apart : g.Apart) : g.Unambiguous := by
  refine ⟨?_,?_,?_⟩
  · rw [Table.values,List.filter_map,List.map_map]
    have entries : g.components.entries.Nodup := g.components.distinct.of_map _
    refine (entries.filter _).map_on fun e first d second same => ?_
    obtain ⟨left,real⟩ := List.mem_filter.mp first
    have right := (List.mem_filter.mp second).1
    have key := apart.registered left right (bne_iff_ne.mp real) same
    obtain ⟨k,c⟩ := e
    obtain ⟨k',c'⟩ := d
    obtain rfl : k = k' := key
    rw [Table.entry_unique left right]
  · intro c stored real
    obtain ⟨e,here,rfl⟩ := List.mem_map.mp stored
    cases found : g.registeredAs? e.2.pid with
    | none =>
      rcases registeredAs_none.mp found with none | free
      · exact absurd none real
      · exact absurd rfl (free e here)
    | some d =>
      unfold registeredAs? at found
      rw [if_neg real] at found
      have same : d.pid = e.2.pid := by simpa using List.find?_some found
      obtain ⟨⟨k,d'⟩,there,rfl⟩ := List.mem_map.mp (List.mem_of_find?_eq_some found)
      obtain ⟨k',c⟩ := e
      obtain rfl : k' = k := apart.registered here there real same.symm
      rw [Table.entry_unique there here]
  · intro c stored real
    obtain ⟨e,here,rfl⟩ := List.mem_map.mp stored
    exact apart.gone e here (Component.registered_iff.mpr real)

-- What reconciling keeps: names and pids, but not a name against a pid.
structure Listed (g : Graph) : Prop where
  names : g.components.Tells fun a b => a.name = b.name
  pids : g.components.Tells fun a b => a.pid ≠ unregisteredPid ∧ a.pid = b.pid
  gone : g.pending.deletions = []

theorem Listed.reconciled (listed : g.Listed) {r : Registration}
    (unknown : g.registeredAs? r.pid = none) (admitted : g.checkPlace r.request = .ok ()) :
    (g.placed r.request).Listed := by
  have unnamed := (checkPlace_name admitted).1
  refine ⟨listed.names.insert fun e stored => ⟨unnamed e stored,(unnamed e stored).symm⟩,
    listed.pids.insert fun e stored => ?_,?_⟩
  · rcases registeredAs_none.mp unknown with none | free
    · exact ⟨fun same => same.1 (same.2.trans none),fun same => same.1 none⟩
    · exact ⟨fun same => free e stored same.2,fun same => free e stored same.2.symm⟩
  · change (g.pending.noteCreation _).deletions = []
    rw [Pending.noteCreation_deletions]
    exact listed.gone

theorem Listed.apart (listed : g.Listed) (free : g.Unshadowed) : g.Apart := by
  refine ⟨listed.names,?_,fun e _ _ pending => ?_⟩
  · intro e first d second same
    have left : e.2 ∈ g.components.values := List.mem_map.mpr ⟨e,first,rfl⟩
    have right : d.2 ∈ g.components.values := List.mem_map.mpr ⟨d,second,rfl⟩
    cases one : e.2.registered with
    | true =>
      have real := Component.registered_iff.mp one
      rw [Component.committed_registered one] at same
      cases other : d.2.registered with
      | true =>
        rw [Component.committed_registered other] at same
        exact listed.pids e first d second ⟨real,same⟩
      | false =>
        rw [Component.committed_pid other] at same
        exact absurd same.symm (free _ right _ left (Component.unregistered_iff.mp other) real)
    | false =>
      rw [Component.committed_pid one] at same
      cases other : d.2.registered with
      | true =>
        rw [Component.committed_registered other] at same
        exact absurd same (free _ left _ right (Component.unregistered_iff.mp one)
          (Component.registered_iff.mp other))
      | false =>
        rw [Component.committed_pid other] at same
        exact listed.names e first d second same
  · rw [listed.gone] at pending
    cases pending

-- The names and the real pids of a topology, once it is restored, are each found once.
theorem restore_listed {t : Topology} {driverFactories supply : List String}
    (names : ((restoredComponents t).values.map (·.name)).Nodup)
    (pids : (((restoredComponents t).values.filter fun c => c.pid != unregisteredPid).map
      (·.pid)).Nodup) : (restore t driverFactories 0 supply).Listed := by
  refine ⟨?_,?_,rfl⟩
  · intro e first d second same
    have distinct : (((restoredComponents t).values.filter fun _ => true).map (·.name)).Nodup := by
      rwa [List.filter_eq_self.mpr fun _ _ => rfl]
    exact Table.tells_of_nodup distinct e first d second ⟨rfl,rfl,same⟩
  · rintro e first d second ⟨real,same⟩
    have other : d.2.pid ≠ unregisteredPid := same ▸ real
    exact Table.tells_of_nodup pids e first d second ⟨bne_iff_ne.mpr real,bne_iff_ne.mpr other,same⟩

-- With no wires there is nothing to stop a save.
theorem bare_checkSave (free : g.locked = false) (bare : g.wires.entries = []) :
    g.checkSave = .ok () := by
  have ends : g.WiresEnd := by simp [WiresEnd,Table.values,bare]
  obtain ⟨found,answered⟩ := answers ends
  cases found with
  | false => simp [checkSave,free,answered]
  | true =>
    obtain ⟨id,back⟩ := (answer_exact answered).mp rfl
    obtain ⟨next,⟨w,stored,_⟩,_⟩ := TransGen.head'_iff.mp back
    rw [Table.values,bare] at stored
    cases stored

end Graph

namespace Session
variable {s final : Session} {t : Trace} {traces : List Trace}

theorem Turn.apart (turn : Turn s t) (apart : s.graph.Apart) : t.after.graph.Apart := by
  refine turn.preserves (P := fun x => x.graph.Apart) ?_ ?_ apart.settle apart
  · intro e graph ordered runs
    have made := runs.preserves (fun member move kept =>
      move.apart (fun spec same => changes_ordered ordered (same ▸ member)) kept) apart
    exact ⟨made.names,made.pids,made.gone⟩
  · exact fun kept => ⟨kept.names,kept.pids,fun _ _ _ pending => by cases pending⟩

theorem Turns.apart (turns : Turns s traces final) (apart : s.graph.Apart) : final.graph.Apart :=
  turns.preserves (P := fun x => x.graph.Apart) (fun turn => turn.apart) apart

theorem start_listed {snapshot : Snapshot} {settings : Settings} {supply : List String}
    (started : Session.start snapshot settings supply = .ok s)
    (listed : (Graph.restore snapshot.graph settings.driverFactories 0 supply).Listed) :
    s.graph.Listed ∧ s.graph.Keyed ∧ s.graph.locked = false ∧ s.closed = false := by
  obtain ⟨grown,done,rfl⟩ := start_parts started
  have parts : grown.Listed ∧ grown.Keyed ∧ grown.locked = false := by
    refine reconcile_preserves (P := fun g => g.Listed ∧ g.Keyed ∧ g.locked = false) ?_ done
      ⟨listed,Graph.restore_keyed _ _ _ _,rfl⟩
    rintro g r _ unknown move ⟨kept,keyed,free⟩
    cases move with
    | placed admitted =>
      exact ⟨kept.reconciled unknown admitted,(Graph.Moves.placed admitted).keyed keyed,free⟩
  obtain ⟨kept,keyed,free⟩ := parts
  exact ⟨⟨kept.names,kept.pids,kept.gone⟩,⟨keyed.components,keyed.wires⟩,free,rfl⟩

-- Taking out the first wire, by the editor's own means.
theorem unwire_first {key : String} {w : Wire} {rest : List (String × Wire)} (keyed : s.graph.Keyed)
    (free : s.graph.locked = false) (opened : s.closed = false)
    (wires : s.graph.wires.entries = (key,w) :: rest) :
    let next := (s.perform (.step (.editSession (.disconnect key)))).after
    next.graph.components = s.graph.components ∧ next.graph.wires.entries = rest ∧
      next.graph.locked = false ∧ next.closed = false := by
  have here : (key,w) ∈ s.graph.wires.entries := by rw [wires]; exact List.mem_cons_self
  obtain rfl : w.id = key := keyed.wires _ here
  have found : s.graph.wire? w.id = some w := Table.get?_iff.mpr here
  have present : s.graph.wires.contains w.id = true := Table.contains_iff.mpr (Table.key_mem here)
  have done : (s.perform (.step (.editSession (.disconnect w.id)))).after =
      touch { s with graph := s.graph.withoutWire w } := by
    have made : s.graph.disconnect w.id = (.ok (),s.graph.withoutWire w) := by
      simp [Graph.disconnect,free,found,Graph.dropWires,present]
    simp [perform,step,edit,checkOpen_iff.mpr opened,Graph.apply,made,Except.map]
  have others : rest.filter (fun e => e.1 != w.id) = rest := by
    have distinct := s.graph.wires.distinct
    rw [wires,List.map_cons,List.nodup_cons] at distinct
    refine List.filter_eq_self.mpr fun e member => bne_iff_ne.mpr fun same => ?_
    exact distinct.1 (List.mem_map.mpr ⟨e,member,same⟩)
  rw [done]
  refine ⟨rfl,?_,free,opened⟩
  change (s.graph.wires.entries.filter fun e => e.1 != w.id) = rest
  rw [wires,List.filter_cons_of_neg (by simp),others]

-- An editor can always take out every wire and then save.
theorem unwired_save (keyed : s.graph.Keyed) (free : s.graph.locked = false)
    (opened : s.closed = false) :
    ∃ actions : List Action, (∀ a ∈ actions, a.editorial = true) ∧
      (s.runAll false actions).after.graph.components =
        s.graph.components.mapValues (·.committed) := by
  generalize wires : s.graph.wires.entries = es
  induction es generalizing s with
  | nil =>
    refine ⟨[.save true [] false .accept],by simp [Action.editorial],?_⟩
    have checked := Graph.bare_checkSave free wires
    simp [runAll,perform,checkSave,checkOpen_iff.mpr opened,beginSave,checked,ruling,Verdict.rule,
      concludeSave,endSave,giveBack,sameGraph,clean,Graph.release,Graph.settle,Graph.commit,
      Graph.hold]
  | cons e rest ih =>
    have turn := edit_turn keyed (e := .disconnect e.1) trivial
    obtain ⟨components,left,free,opened⟩ := unwire_first keyed free opened wires
    obtain ⟨actions,editorial,saved⟩ := ih (turn.keyed keyed) free opened left
    refine ⟨.step (.editSession (.disconnect e.1)) :: actions,?_,?_⟩
    · rintro a (_ | ⟨_,member⟩)
      · rfl
      · exact editorial a member
    · rw [← components,← saved]
      simp [runAll]

-- The records and the stored pids need not be compared: a record whose pid the graph has is skipped,
-- and only a name can meet a pid later.
theorem unambiguous_iff {snapshot : Snapshot} {settings : Settings} {supply : List String}
    (started : Session.start snapshot settings supply = .ok s)
    (names : ((Graph.restoredComponents snapshot.graph).values.map (·.name)).Nodup)
    (pids : (((Graph.restoredComponents snapshot.graph).values.filter fun c =>
      c.pid != unregisteredPid).map (·.pid)).Nodup) :
    (∀ (actions : List Action) (stops : Bool), (∀ a ∈ actions, a.editorial = true) →
      (s.runAll stops actions).after.graph.Unambiguous) ↔ s.graph.Unshadowed := by
  obtain ⟨listed,keyed,free,opened⟩ := start_listed started (Graph.restore_listed names pids)
  constructor
  · intro always c first d second none real same
    obtain ⟨actions,editorial,components⟩ := unwired_save keyed free opened
    have found := (always actions false editorial).found
    rw [components,Table.values_mapValues] at found
    have unregistered := Component.unregistered_iff.mpr none
    have known := Component.registered_iff.mpr real
    have pid : c.committed.pid = d.committed.pid := by
      rw [Component.committed_pid unregistered,Component.committed_registered known,same]
    have realised : d.committed.pid ≠ unregisteredPid := by
      rwa [Component.committed_registered known]
    have left := found c.committed (List.mem_map.mpr ⟨c,first,rfl⟩) (pid ▸ realised)
    have right := found d.committed (List.mem_map.mpr ⟨d,second,rfl⟩) realised
    rw [pid,right] at left
    have one : d.committed.id = c.committed.id := congrArg Component.id (Option.some.inj left)
    rw [Component.committed_id,Component.committed_id] at one
    have entry := keyed.component first
    rw [← one] at entry
    rw [Table.entry_unique entry (keyed.component second)] at none
    exact real none
  · intro free actions stops editorial
    exact ((run_turns keyed editorial stops).apart (listed.apart free)).unambiguous

theorem shift_unambiguous :
    Session.start handover {} = .ok shift ∧
      ((Graph.restoredComponents handover.graph).values.map (·.name)).Nodup ∧
      shift.graph.Unshadowed ∧
      ∀ (actions : List Action) (stops : Bool), (∀ a ∈ actions, a.editorial = true) →
        (shift.runAll stops actions).after.graph.Unambiguous := by
  have started : Session.start handover {} = .ok shift := by decide +kernel
  have names : ((Graph.restoredComponents handover.graph).values.map (·.name)).Nodup := by decide
  have free : shift.graph.Unshadowed := by decide +kernel
  exact ⟨started,names,free,(unambiguous_iff started names (by decide)).mpr free⟩

-- A stored component that is to be registered as X, and a registration of another one as X.
def shadowing : Snapshot :=
  { graph := { components := [{ id := "a", factory := "timer", name := "X", role := .producer }] }
    components := [{ pid := "X", factory := "timer", name := "Y", role := .producer }] }

-- What that snapshot opens, and what one save makes of it.
def shadowed : Session := (Session.start shadowing {}).toOption.getD {}
def shadowedRun : List Action := [.save true [] false .accept]

theorem shadowed_ambiguous :
    ((Graph.restoredComponents shadowing.graph).values.map (·.name)).Nodup ∧
      (((Graph.restoredComponents shadowing.graph).values.filter fun c =>
        c.pid != unregisteredPid).map (·.pid)).Nodup ∧
      (Graph.restore shadowing.graph [] 0).Unshadowed ∧
      (shadowing.components.map (·.pid)).Nodup ∧
      (∀ r ∈ shadowing.components, r.pid ≠ unregisteredPid) ∧
      Session.start shadowing {} = .ok shadowed ∧
      (shadowed.runAll false shadowedRun).after.graph.components.values.map (·.pid) = ["X","X"] ∧
      ¬(shadowed.runAll false shadowedRun).after.graph.Unambiguous := by
  have shared : (shadowed.runAll false shadowedRun).after.graph.components.values.map (·.pid) =
      ["X","X"] := by decide +kernel
  refine ⟨by decide,by decide,by decide +kernel,by decide,by decide,by decide +kernel,shared,?_⟩
  intro clear
  have distinct := clear.pids
  revert distinct
  decide +kernel

end Session

end WireGraph
