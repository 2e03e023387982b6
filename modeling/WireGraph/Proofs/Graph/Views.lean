import WireGraph.Proofs.Graph.Guard
import WireGraph.Script.Step

/-!
# One list of wires, five views

The successors and predecessors of an id, the rows of the adjacency, the wire between two ids and the
edges of the directed graph, all of them read off the list of wires. Main statement: where the wires
join components, the views agree on every pair of ids; and the edges come each once, by the place of
their producers and then by the first wire of the pair. The nodes are the components in order if each
of these is stored under its own id.
-/

namespace WireGraph

theorem distinct_concat (items : List String) (x : String) :
    distinct (items ++ [x]) = if x ∈ items then distinct items else distinct items ++ [x] := by
  have known : (distinct items).contains x = true ↔ x ∈ items := by
    rw [List.contains_iff_mem,mem_distinct]
  rw [distinct,List.foldl_append]
  change (if (distinct items).contains x = true then distinct items else distinct items ++ [x]) = _
  simp only [known]

theorem idxOf_ordered {items : List String} (nodup : items.Nodup) :
    items.Pairwise fun a b => items.idxOf a < items.idxOf b := by
  rw [List.pairwise_iff_getElem]
  intro i j first second before
  rwa [nodup.idxOf_getElem i first,nodup.idxOf_getElem j second]

-- What the edges of a list lead to from one id, each at its first edge, stands in the order of these
-- first edges.
theorem distinct_ordered (edges : List Edge) (id : String) :
    (distinct ((edges.filter (·.1 == id)).map (·.2))).Pairwise fun a b =>
      edges.idxOf (id,a) < edges.idxOf (id,b) := by
  induction edges using List.reverseRecOn with
  | nil => exact .nil
  | append_singleton edges e ih =>
    have listed : ∀ x ∈ distinct ((edges.filter (·.1 == id)).map (·.2)), (id,x) ∈ edges := by
      intro x member
      obtain ⟨f,kept,rfl⟩ := List.mem_map.mp (mem_distinct.mp member)
      obtain ⟨stored,starts⟩ := List.mem_filter.mp kept
      rw [beq_iff_eq] at starts
      rwa [← starts]
    -- An edge at the end moves none of the first edges before it.
    have kept : (distinct ((edges.filter (·.1 == id)).map (·.2))).Pairwise fun a b =>
        (edges ++ [e]).idxOf (id,a) < (edges ++ [e]).idxOf (id,b) := by
      refine ih.imp_of_mem fun {a b} first second before => ?_
      rwa [List.idxOf_append_of_mem (listed a first),List.idxOf_append_of_mem (listed b second)]
    rw [List.filter_append,List.map_append]
    by_cases starts : e.1 = id
    · rw [List.filter_cons_of_pos (by simpa using starts)]
      change (distinct (_ ++ [e.2])).Pairwise _
      rw [distinct_concat]
      split
      · exact kept
      · rename_i new
        refine List.pairwise_append.mpr ⟨kept,List.pairwise_singleton _ _,?_⟩
        intro a first b last
        cases List.mem_singleton.mp last
        have absent : (id,e.2) ∉ edges := by
          intro stored
          refine new (List.mem_map.mpr ⟨(id,e.2),?_,rfl⟩)
          exact List.mem_filter.mpr ⟨stored,by simp⟩
        rw [List.idxOf_append_of_mem (listed a first),List.idxOf_append,if_neg absent]
        exact Nat.lt_add_left _ (List.idxOf_lt_length_of_mem (listed a first))
    · rw [List.filter_cons_of_neg (by simpa using starts)]
      simpa using kept

namespace Graph
variable {g : Graph} {p c : String}

-- The pairs that the wires join, in the order of the wires.
def joinedPairs (g : Graph) : List Edge := g.wires.values.map fun w => (w.producer,w.consumer)

-- One edge comes before another: its producer has an earlier node, or they have one producer and its
-- first wire is the earlier one.
def Precedes (g : Graph) (a b : Edge) : Prop :=
  g.digraph.ids.idxOf a.1 < g.digraph.ids.idxOf b.1 ∨
    a.1 = b.1 ∧ g.joinedPairs.idxOf a < g.joinedPairs.idxOf b

theorem mem_predecessors (g : Graph) (id producer : String) :
    producer ∈ g.predecessors id ↔ g.Joins producer id := by
  simp only [predecessors,mem_distinct,List.mem_map,List.mem_filter,beq_iff_eq,Joins]
  constructor
  · rintro ⟨w,⟨stored,stops⟩,starts⟩
    exact ⟨w,stored,starts,stops⟩
  · rintro ⟨w,stored,starts,stops⟩
    exact ⟨w,⟨stored,stops⟩,starts⟩

theorem wireBetween_some : (∃ w, g.wireBetween? p c = some w) ↔ g.Joins p c := by
  rw [← Option.isSome_iff_exists,← not_iff_not,← wireBetween_none]
  simp

theorem mem_adjacency (ends : g.WiresEnd) : c ∈ g.adjacency.row p ↔ g.Joins p c :=
  g.adjacency_lists.leads fun w stored => (ends w stored).1

-- A pair that is joined starts at a node, also where its producer is no component.
theorem mem_edges : (p,c) ∈ g.digraph.edges ↔ g.Joins p c := by
  rw [digraph,Adjacency.edges,List.flatMap_map,← mem_successors]
  constructor
  · intro member
    obtain ⟨id,_,inside⟩ := List.mem_flatMap.mp member
    obtain ⟨s,successor,same⟩ := List.mem_map.mp inside
    cases same
    exact successor
  · intro successor
    obtain ⟨w,stored,rfl,_⟩ := (mem_successors g p c).mp successor
    refine List.mem_flatMap.mpr ⟨w.producer,?_,List.mem_map_of_mem successor⟩
    rw [nodes,mem_distinct]
    exact List.mem_append_right _ (List.mem_flatMap.mpr ⟨w,stored,by simp⟩)

theorem successors_ordered (g : Graph) (id : String) : (g.successors id).Pairwise fun a b =>
    g.joinedPairs.idxOf (id,a) < g.joinedPairs.idxOf (id,b) := by
  have ordered := distinct_ordered g.joinedPairs id
  rw [joinedPairs,List.filter_map,List.map_map] at ordered
  exact ordered

theorem edges_ordered (g : Graph) : g.digraph.edges.Pairwise g.Precedes := by
  have rows := idxOf_ordered g.digraph_tidy.distinct
  rw [digraph,Adjacency.edges,List.flatMap_map]
  rw [digraph_ids] at rows
  refine List.pairwise_flatMap.mpr ⟨fun id _ => ?_,rows.imp fun {a b} before => ?_⟩
  · exact List.pairwise_map.mpr ((g.successors_ordered id).imp fun before => .inr ⟨rfl,before⟩)
  · intro e first f second
    obtain ⟨_,_,rfl⟩ := List.mem_map.mp first
    obtain ⟨_,_,rfl⟩ := List.mem_map.mp second
    rw [Precedes,digraph_ids]
    exact .inl before

theorem Precedes.apart {a b : Edge} (before : g.Precedes a b) : a ≠ b := by
  rintro rfl
  rcases before with node | ⟨_,wire⟩
  · exact Nat.lt_irrefl _ node
  · exact Nat.lt_irrefl _ wire

theorem views_agree (g : Graph) (ends : g.WiresEnd) :
    (∀ p c, (c ∈ g.adjacency.row p ↔ c ∈ g.successors p) ∧
      (c ∈ g.successors p ↔ p ∈ g.predecessors c) ∧
      (p ∈ g.predecessors c ↔ ∃ w, g.wireBetween? p c = some w) ∧
      ((∃ w, g.wireBetween? p c = some w) ↔ (p,c) ∈ g.digraph.edges) ∧
      ((p,c) ∈ g.digraph.edges ↔ g.Joins p c)) ∧
    (∀ s : Session, s.graph = g → s.answer .adjacency = .ok (.adjacency g.adjacency) ∧
      s.answer .digraph = .ok (.digraph g.digraph.ids g.digraph.edges)) ∧
    g.adjacency.ids = g.components.keys ∧
    (g.Named → g.components.values.map (·.id) = g.components.keys ∧
      g.digraph.ids = g.components.keys ∧ g.components.keys.Nodup) ∧
    g.digraph.edges.Nodup ∧ g.digraph.edges.Pairwise g.Precedes := by
  refine ⟨fun p c => ?_,?_,?_,?_,g.edges_ordered.imp Precedes.apart,g.edges_ordered⟩
  · rw [mem_adjacency ends,mem_successors,mem_predecessors,wireBetween_some,mem_edges]
    simp
  · intro s same
    have starts := dangling_none.mpr fun w stored => (ends w stored).1
    rw [Session.answer,Session.answer,same,starts,digraph_ids]
    exact ⟨rfl,rfl⟩
  · simp [adjacency,Adjacency.ids,Function.comp_def]
  · intro named
    exact ⟨named.ids,by rw [digraph_ids,named.nodes ends],g.components.keys_nodup⟩

-- A wire in parallel, a wire from a component to itself, and wires that come in another order than
-- their producers.
def woven : Graph := restore
  { components := ["c","a","b"].map fun id => { id, factory := "filter", name := id, role := .both }
    wires := [⟨"1","b","a",true⟩,⟨"2","a","b",false⟩,⟨"3","b","b",true⟩,⟨"4","b","a",false⟩,
      ⟨"5","a","c",true⟩] } [] 0

theorem woven_agrees :
    woven.WiresEnd ∧ woven.Named ∧ woven.digraph.ids = ["c","a","b"] ∧
      woven.digraph.edges = [("a","b"),("a","c"),("b","a"),("b","b")] ∧
      woven.digraph.edges.Pairwise woven.Precedes ∧
      "b" ∈ woven.adjacency.row "b" ∧ "b" ∈ woven.predecessors "b" ∧
      "b" ∉ woven.successors "c" ∧ woven.wireBetween? "c" "b" = none := by
  have ends : woven.WiresEnd := by unfold WiresEnd; decide +kernel
  have named : woven.Named := by unfold Named; decide +kernel
  have edges : woven.digraph.edges = [("a","b"),("a","c"),("b","a"),("b","b")] := by
    decide +kernel
  obtain ⟨pairs,_,_,nodes,_,ordered⟩ := views_agree woven ends
  obtain ⟨row,successor,_,_,_⟩ := pairs "b" "b"
  have loops : "b" ∈ woven.successors "b" := by decide +kernel
  obtain ⟨_,apart,between,found,_⟩ := pairs "c" "b"
  have unjoined : ("c","b") ∉ woven.digraph.edges := by rw [edges]; decide
  have absent : ¬∃ w, woven.wireBetween? "c" "b" = some w := fun wired => unjoined (found.mp wired)
  refine ⟨ends,named,?_,edges,ordered,row.mpr loops,successor.mp loops,?_,?_⟩
  · rw [(nodes named).2.1]
    decide +kernel
  · exact fun leads => absent (between.mp (apart.mp leads))
  · exact Option.eq_none_iff_forall_not_mem.mpr fun w wired => absent ⟨w,wired⟩

-- The adjacency goes by the ids that components are stored under, the directed graph by the ids of
-- their records; no list of ids is that of both.
theorem relabelled_apart :
    relabelled.WiresEnd ∧ ¬∃ ids : List String,
      (∀ id, id ∈ relabelled.adjacency.ids ↔ id ∈ ids) ∧
        ∀ id, id ∈ relabelled.digraph.ids ↔ id ∈ ids := by
  refine ⟨by unfold WiresEnd; decide +kernel,?_⟩
  rintro ⟨ids,rows,nodes⟩
  have row : "a" ∈ relabelled.adjacency.ids := by decide +kernel
  have node : "a" ∉ relabelled.digraph.ids := by decide +kernel
  exact node ((nodes "a").mpr ((rows "a").mp row))

end Graph

end WireGraph
