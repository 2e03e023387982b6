import Mathlib.Data.List.Chain
import Mathlib.Logic.Relation
import WireGraph.Cycle.Trail

/-!
# Tours

A tour is a closed walk along the wires of a graph. Main statements: there is a tour exactly when
some id is joined to itself in one or more steps, and no id of a grounded list is. A grounded list is
what a search leaves behind when it has looked at everything it could reach.
-/

namespace WireGraph
open Relation

-- One wire leads from the producer to the consumer.
def Graph.Joins (g : Graph) (producer consumer : String) : Prop :=
  ∃ w ∈ g.wires.values, w.producer = producer ∧ w.consumer = consumer

-- Wires of the graph, each ending where the next one starts and the last where the first starts.
-- A wire may come more than once, and a wire from a component to itself is a tour of its own.
structure Graph.Tour (g : Graph) (wires : List Wire) : Prop where
  nonempty : wires ≠ []
  stored : ∀ w ∈ wires, w ∈ g.wires.values
  joined : wires.IsChain fun w next => w.consumer = next.producer
  closed : (wires.getLast nonempty).consumer = (wires.head nonempty).producer

-- Both ends of every wire are components. A record that was changed by hand may break this.
def Graph.WiresEnd (g : Graph) : Prop :=
  ∀ w ∈ g.wires.values, g.contains w.producer = true ∧ g.contains w.consumer = true

namespace Graph

theorem mem_successors (g : Graph) (id consumer : String) :
    consumer ∈ g.successors id ↔ g.Joins id consumer := by
  simp only [successors,mem_distinct,List.mem_map,List.mem_filter,beq_iff_eq,Joins]
  constructor
  · rintro ⟨w,⟨stored,starts⟩,ends⟩; exact ⟨w,stored,starts,ends⟩
  · rintro ⟨w,stored,starts,ends⟩; exact ⟨w,⟨stored,starts⟩,ends⟩

theorem wireBetween_none {g : Graph} {producer consumer : String} :
    g.wireBetween? producer consumer = none ↔ ¬g.Joins producer consumer := by
  simp [wireBetween?,Joins]

theorem walk_joins {g : Graph} {first : Wire} {rest : List Wire}
    (stored : ∀ w ∈ first :: rest, w ∈ g.wires.values)
    (joined : (first :: rest).IsChain fun w next => w.consumer = next.producer) :
    TransGen g.Joins first.producer ((first :: rest).getLast (by simp)).consumer := by
  have start : g.Joins first.producer first.consumer := ⟨first,stored first (by simp),rfl,rfl⟩
  induction rest generalizing first with
  | nil => exact .single start
  | cons next rest ih =>
    obtain ⟨meets,later⟩ := List.isChain_cons_cons.mp joined
    have onward : ∀ w ∈ next :: rest, w ∈ g.wires.values :=
      fun w member => stored w (List.mem_cons_of_mem _ member)
    have path := ih onward later ⟨next,onward next (by simp),rfl,rfl⟩
    rw [List.getLast_cons (by simp)]
    exact .head start (meets ▸ path)

theorem joins_walk {g : Graph} {a b : String} (path : TransGen g.Joins a b) :
    ∃ first rest, (∀ w ∈ first :: rest, w ∈ g.wires.values) ∧
      (first :: rest).IsChain (fun w next => w.consumer = next.producer) ∧
      first.producer = a ∧ ((first :: rest).getLast (by simp)).consumer = b := by
  induction path using TransGen.head_induction_on with
  | single step =>
    obtain ⟨w,stored,rfl,rfl⟩ := step
    exact ⟨w,[],by simpa using stored,by simp,rfl,rfl⟩
  | head step _ ih =>
    obtain ⟨w,stored,rfl,starts⟩ := step
    obtain ⟨first,rest,onward,joined,meets,ends⟩ := ih
    refine ⟨w,first :: rest,?_,?_,rfl,by rwa [List.getLast_cons (by simp)]⟩
    · intro v member
      rcases List.mem_cons.mp member with rfl | later
      · exact stored
      · exact onward v later
    · exact List.isChain_cons_cons.mpr ⟨starts.trans meets.symm,joined⟩

theorem tour_exact (g : Graph) :
    (∃ wires, g.Tour wires) ↔ ∃ id, TransGen g.Joins id id := by
  constructor
  · rintro ⟨wires,tour⟩
    obtain ⟨nonempty,stored,joined,closed⟩ := tour
    cases wires with
    | nil => exact absurd rfl nonempty
    | cons first rest =>
      have path := walk_joins stored joined
      rw [closed] at path
      exact ⟨first.producer,path⟩
  · rintro ⟨id,path⟩
    obtain ⟨first,rest,stored,joined,starts,ends⟩ := joins_walk path
    exact ⟨first :: rest,by simp,stored,joined,ends.trans starts.symm⟩

end Graph

section Grounded
variable {next : String → String → Prop} {ids : List String} {id : String}

-- Whatever a member leads to stands later in the list. A member may stand in it twice.
def Grounded (next : String → String → Prop) : List String → Prop
  | [] => True
  | id :: rest => (∀ s, next id s → s ∈ rest) ∧ Grounded next rest

theorem Grounded.step (grounded : Grounded next ids) (member : id ∈ ids) {s : String}
    (step : next id s) : s ∈ ids := by
  induction ids with
  | nil => cases member
  | cons head rest ih =>
    rcases List.mem_cons.mp member with rfl | later
    · exact List.mem_cons_of_mem _ (grounded.1 s step)
    · exact List.mem_cons_of_mem _ (ih grounded.2 later)

theorem Grounded.leads (grounded : Grounded next ids) (member : id ∈ ids) {s : String}
    (path : ReflTransGen next id s) : s ∈ ids := by
  induction path with
  | refl => exact member
  | tail _ step ih => exact grounded.step ih step

theorem Grounded.right {before : List String} (grounded : Grounded next (before ++ ids)) :
    Grounded next ids := by
  induction before with
  | nil => exact grounded
  | cons head before ih => exact ih grounded.2

theorem Grounded.no_return (grounded : Grounded next ids) (member : id ∈ ids) :
    ¬ TransGen next id id := by
  induction ids with
  | nil => cases member
  | cons head rest ih =>
    rcases List.mem_cons.mp member with rfl | later
    · intro path
      -- The way back passes through the rest of the list, which nothing leads out of.
      obtain ⟨s,step,back⟩ := TransGen.head'_iff.mp path
      exact ih grounded.2 (grounded.2.leads (grounded.1 s step) back) path
    · exact ih grounded.2 later

end Grounded

end WireGraph
