import WireGraph.Proofs.Cycle.Tour
import WireGraph.Proofs.Graph.Change

/-!
# What can happen to a graph

A graph changes by a component or a wire at a time. Besides, it is committed, its pending changes
are noted or forgotten, its lock is taken or given back, and its events are collected. Main
statements: whatever happens to it, its records stay under their own ids and its wires end at its
components; and what a change makes of the topology is a topology with one record more at the end of
its list, or with one record less.
-/

namespace WireGraph

namespace Table
variable {α : Type} {t : Table α} {key : String} {value : α}

theorem values_insert_new (new : key ∉ t.keys) : (t.insert key value).values = t.values ++ [value] := by
  simp [values,entries_insert_of_not_mem new]

-- A table filtered by what can be said of its records alone.
theorem values_filter {p : String × α → Bool} {q : α → Bool} (same : ∀ e ∈ t.entries, p e = q e.2) :
    (t.filter p).values = t.values.filter q := by
  rw [values,values,List.filter_map,entries_filter]
  exact congrArg _ (List.filter_congr same)

theorem values_erase {name : α → String} (keyed : ∀ e ∈ t.entries, name e.2 = e.1) (key : String) :
    (t.erase key).values = t.values.filter fun a => name a != key :=
  values_filter fun e stored => by rw [keyed e stored]

-- What is put into a table comes from the list, whatever is overwritten on the way.
theorem ofList_mem (name : α → String) (records : List α) :
    ∀ a ∈ (ofList name records).values, a ∈ records := by
  have collect : ∀ t : Table α, ∀ e ∈ (records.foldl (fun t r => t.insert (name r) r) t).entries,
      e ∈ t.entries ∨ e.2 ∈ records := by
    induction records with
    | nil => exact fun _ _ stored => .inl stored
    | cons r rest ih =>
      intro t e stored
      rcases ih _ e stored with before | later
      · rcases mem_insert.mp before with rfl | ⟨old,_⟩
        · exact .inr List.mem_cons_self
        · exact .inl old
      · exact .inr (List.mem_cons_of_mem _ later)
  intro a stored
  obtain ⟨e,entry,rfl⟩ := List.mem_map.mp stored
  rcases collect empty e entry with none | listed
  · cases none
  · exact listed

-- Records with distinct names are all there, in their order.
theorem ofList_values (name : α → String) (records : List α)
    (distinct : (records.map name).Nodup) : (ofList name records).values = records := by
  have collect : ∀ t : Table α, (∀ r ∈ records, name r ∉ t.keys) →
      (records.foldl (fun t r => t.insert (name r) r) t).values = t.values ++ records := by
    induction records with
    | nil => exact fun _ _ => (List.append_nil _).symm
    | cons r rest ih =>
      intro t new
      rw [List.map_cons,List.nodup_cons] at distinct
      have later : ∀ a ∈ rest, name a ∉ (t.insert (name r) r).keys := by
        intro a member taken
        rcases mem_keys_insert.mp taken with old | same
        · exact new a (List.mem_cons_of_mem _ member) old
        · exact distinct.1 (same ▸ List.mem_map.mpr ⟨a,member,rfl⟩)
      rw [List.foldl_cons,ih distinct.2 _ later,values_insert_new (new r List.mem_cons_self),
        List.append_assoc]
      rfl
  exact collect empty fun _ _ stored => by cases stored

end Table

-- One wire of the topology leads from the producer to the consumer.
def Topology.Joins (t : Topology) (producer consumer : String) : Prop :=
  ∃ w ∈ t.wires, w.producer = producer ∧ w.consumer = consumer

-- The topology after a change; `id` is the one that is given out next.
def Topology.changed (t : Topology) (id : String) : Change → Topology
  | .placed spec => { t with components := t.components ++ [spec.withId id] }
  | .connected producer consumer =>
    { t with wires := t.wires ++ [{ id, producer, consumer, fresh := true }] }
  | .cut w => { t with wires := t.wires.filter (·.id != w.id) }
  | .removed c => { t with components := t.components.filter (·.id != c.id) }

namespace Graph

theorem topology_joins (g : Graph) : g.topology.Joins = g.Joins := rfl

-- One thing that happens to a graph, with the events that are collected by it.
inductive Happens : Graph → List Event → Graph → Prop where
  | moved {g after : Graph} {change : Change} (move : Moves g change after) : Happens g [] after
  | committed {g : Graph} : Happens g [] g.commit
  | noted {g : Graph} (pending : Pending) : Happens g [] { g with pending }
  | barred {g : Graph} (locked : Bool) : Happens g [] { g with locked }
  | drained {g : Graph} : Happens g g.events g.drain.2

inductive Passes : Graph → List Event → Graph → Prop where
  | nil {g : Graph} : Passes g [] g
  | cons {g middle after : Graph} {first later : List Event} :
      Happens g first middle → Passes middle later after → Passes g (first ++ later) after

variable {g middle after : Graph} {change : Change} {path : List Change} {first later out : List Event}

theorem Passes.append (here : Passes g first middle) (onward : Passes middle later after) :
    Passes g (first ++ later) after := by
  induction here with
  | nil => exact onward
  | cons happens _ ih => rw [List.append_assoc]; exact .cons happens (ih onward)

theorem Happens.passes (happens : Happens g out after) : Passes g out after := by
  simpa using Passes.cons happens .nil

theorem Runs.passes (runs : Runs g path after) : Passes g [] after := by
  induction runs with
  | nil => exact .nil
  | cons move _ ih => exact .cons (.moved move) ih

-- What happens after something else, with nothing collected by it.
theorem Passes.then (here : Passes g out middle) (happens : Happens middle [] after) :
    Passes g out after := by
  simpa using here.append happens.passes

theorem Passes.preserves {P : Graph → Prop} (passes : Passes g out after)
    (step : ∀ {before out next}, Happens before out next → P before → P next) (start : P g) :
    P after := by
  induction passes with
  | nil => exact start
  | cons happens _ ih => exact ih (step happens start)

theorem Keyed.commit (keyed : g.Keyed) : g.commit.Keyed :=
  ⟨keyed.settle.components,keyed.settle.wires⟩

theorem Happens.keyed (happens : Happens g out after) (keyed : g.Keyed) : after.Keyed := by
  cases happens with
  | moved move => exact move.keyed keyed
  | committed => exact keyed.commit
  | noted | barred | drained => exact ⟨keyed.components,keyed.wires⟩

theorem Passes.keyed (passes : Passes g out after) (keyed : g.Keyed) : after.Keyed :=
  passes.preserves (fun happens kept => happens.keyed kept) keyed

theorem Keyed.contains_iff (keyed : g.Keyed) {id : String} :
    g.contains id = true ↔ id ∈ g.components.values.map (·.id) := by
  rw [contains,Table.contains_iff,keyed.component_ids]

-- Where no wire is attached to a component, none starts or ends there.
theorem attached_nil {id : String} : g.attached id = [] ↔
    ∀ w ∈ g.wires.values, w.producer ≠ id ∧ w.consumer ≠ id := by
  simp [attached,List.filter_eq_nil_iff]

-- A wire is added between components only, and a component goes only when no wire is left at it.
theorem Moves.wiresEnd (move : Moves g change after) (ends : g.WiresEnd) : after.WiresEnd := by
  intro w stored
  obtain ⟨e,entry,rfl⟩ := List.mem_map.mp stored
  have old : e ∈ g.wires.entries → g.contains e.2.producer = true ∧ g.contains e.2.consumer = true :=
    fun before => ends _ (List.mem_map.mpr ⟨e,before,rfl⟩)
  simp only [contains,Table.contains_iff] at old ⊢
  cases move with
  | placed =>
    obtain ⟨producer,consumer⟩ := old entry
    exact ⟨Table.mem_keys_insert.mpr (.inl producer),Table.mem_keys_insert.mpr (.inl consumer)⟩
  | connected admitted =>
    rcases Table.mem_insert.mp entry with rfl | ⟨before,_⟩
    · obtain ⟨_,_,_,p,c,source,target,_⟩ := checkConnect_iff.mp admitted
      exact ⟨Table.key_mem (Table.get?_iff.mp source),Table.key_mem (Table.get?_iff.mp target)⟩
    · exact old before
  | cut => exact old (List.mem_filter.mp entry).1
  | removed _ free =>
    obtain ⟨producer,consumer⟩ := old entry
    obtain ⟨source,target⟩ := attached_nil.mp free _ (List.mem_map.mpr ⟨e,entry,rfl⟩)
    exact ⟨Table.mem_keys_erase.mpr ⟨producer,source⟩,Table.mem_keys_erase.mpr ⟨consumer,target⟩⟩

theorem WiresEnd.commit (ends : g.WiresEnd) : g.commit.WiresEnd := by
  intro w stored
  rw [Graph.commit,Table.values_mapValues] at stored
  obtain ⟨old,before,rfl⟩ := List.mem_map.mp stored
  have kept := ends old before
  simp only [contains,Table.contains_iff] at kept ⊢
  rwa [Graph.commit,Table.keys_mapValues]

theorem Passes.wiresEnd (passes : Passes g out after) (ends : g.WiresEnd) : after.WiresEnd := by
  refine passes.preserves (P := WiresEnd) (fun happens kept => ?_) ends
  cases happens with
  | moved move => exact move.wiresEnd kept
  | committed => exact kept.commit
  | noted | barred | drained => exact kept

-- Stale wires are left out.
theorem restore_wiresEnd (t : Topology) (driverFactories : List String) (drawn : Nat)
    (supply : List String) : (restore t driverFactories drawn supply).WiresEnd := by
  intro w stored
  have listed := (List.mem_filter.mp (Table.ofList_mem _ _ w stored)).2
  exact (Bool.and_eq_true _ _).mp listed

-- The next id is in use neither for a component nor for a wire.
theorem Spares.next {upto : Nat} (spares : g.Spares g.drawn upto) (later : g.drawn < upto) :
    g.nextId ∉ g.components.keys ∧ g.nextId ∉ g.wires.keys :=
  spares.unused _ later (Nat.lt_succ_self _)

theorem Moves.topology (move : Moves g change after) (keyed : g.Keyed)
    (spares : g.Spares g.drawn after.drawn) :
    after.topology = g.topology.changed g.nextId change := by
  cases move with
  | placed =>
    obtain ⟨new,_⟩ := spares.next (Nat.lt_succ_self _)
    exact congrArg (Topology.mk · _) (Table.values_insert_new new)
  | connected =>
    obtain ⟨_,new⟩ := spares.next (Nat.lt_succ_self _)
    exact congrArg (Topology.mk _) (Table.values_insert_new new)
  | cut => exact congrArg (Topology.mk _) (Table.values_erase keyed.wires _)
  | removed => exact congrArg (Topology.mk · _) (Table.values_erase keyed.components _)

theorem Happens.drawn_le (happens : Happens g out after) : g.drawn ≤ after.drawn := by
  cases happens with
  | moved move => exact move.drawn_le
  | committed | noted | barred | drained => exact Nat.le_refl _

theorem Passes.drawn_le (passes : Passes g out after) : g.drawn ≤ after.drawn :=
  passes.preserves (P := fun h => g.drawn ≤ h.drawn)
    (fun happens under => Nat.le_trans under happens.drawn_le) (Nat.le_refl _)

theorem Happens.spares {upto : Nat} (happens : Happens g out after)
    (spares : g.Spares g.drawn upto) : after.Spares after.drawn upto := by
  cases happens with
  | moved move => exact move.spares spares
  | committed =>
    exact spares.congr (Table.keys_mapValues _ _) (Table.keys_mapValues _ _) rfl
  | noted | barred | drained => exact spares.congr rfl rfl rfl

theorem Passes.spares {upto : Nat} (passes : Passes g out after)
    (spares : g.Spares g.drawn upto) : after.Spares after.drawn upto :=
  passes.preserves (P := fun h => h.Spares h.drawn upto) (fun happens kept => happens.spares kept)
    spares

-- What every happening keeps, given the records under their ids and an unused id for each new one,
-- a passage keeps; `seen` are the events that were collected before.
theorem Passes.keeps {P : List Event → Graph → Prop} (passes : Passes g out after)
    (keyed : g.Keyed) (spares : g.Spares g.drawn after.drawn) (seen : List Event)
    (step : ∀ {before seen more next}, Happens before more next → before.Keyed →
      before.Spares before.drawn next.drawn → P seen before → P (seen ++ more) next)
    (start : P seen g) : P (seen ++ out) after := by
  induction passes generalizing seen with
  | nil => rwa [List.append_nil]
  | cons happens rest ih =>
    have next := step happens keyed (spares.narrow (Nat.le_refl _) rest.drawn_le) start
    rw [← List.append_assoc]
    exact ih (happens.keyed keyed) (happens.spares spares) _ next

end Graph

end WireGraph
