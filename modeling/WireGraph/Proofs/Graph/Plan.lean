import WireGraph.Proofs.Cycle.Order
import WireGraph.Proofs.Cycle.Trail
import WireGraph.Proofs.Graph.Report
import WireGraph.Proofs.Graph.Passage

/-!
# What a plan lists

The text of a plan against the components and wires of its graph. Main statement: a graph whose wires
lead round has the notice for a plan, and any other graph a plan that numbers every component once,
each before those that its wires lead to, and names these under it.
-/

namespace WireGraph
open Relation

theorem distinct_append_known {first more : List String} (nodup : first.Nodup)
    (known : ∀ x ∈ more, x ∈ first) : distinct (first ++ more) = first := by
  have fresh : ∀ (seen rest : List String), (seen ++ rest).Nodup →
      rest.foldl (fun seen x => if seen.contains x then seen else seen ++ [x]) seen =
        seen ++ rest := by
    intro seen rest
    induction rest generalizing seen with
    | nil => simp
    | cons x rest ih =>
      intro apart
      have new : x ∉ seen := fun old =>
        (List.nodup_append.mp apart).2.2 x old x (by simp) rfl
      rw [List.foldl_cons,if_neg (by simpa using new),ih]
      · simp
      · simpa using apart
  have stale : ∀ rest : List String, (∀ x ∈ rest, x ∈ first) →
      rest.foldl (fun seen x => if seen.contains x then seen else seen ++ [x]) first = first := by
    intro rest
    induction rest with
    | nil => exact fun _ => rfl
    | cons x rest ih =>
      intro old
      rw [List.foldl_cons,if_pos (by simpa using old x (by simp))]
      exact ih fun y member => old y (List.mem_cons_of_mem _ member)
  rw [distinct,List.foldl_append,fresh [] first (by simpa using nodup),List.nil_append,
    stale more known]

theorem distinct_nodup (items : List String) : (distinct items).Nodup := by
  have collect : ∀ seen : List String, seen.Nodup →
      (items.foldl (fun seen x => if seen.contains x then seen else seen ++ [x]) seen).Nodup := by
    induction items with
    | nil => exact fun _ nodup => nodup
    | cons x rest ih =>
      intro seen nodup
      rw [List.foldl_cons]
      split
      · exact ih seen nodup
      · rename_i new
        refine ih _ (List.nodup_append.mpr ⟨nodup,by simp,?_⟩)
        rintro y old z last rfl
        rw [List.mem_singleton.mp last] at old
        exact new (by simpa using old)
  exact collect [] List.nodup_nil

theorem Plan.byName_perm (cs : List Component) : (byName cs).Perm cs := List.mergeSort_perm _ _

theorem Plan.byName_sorted (cs : List Component) :
    (byName cs).Pairwise fun a b => a.name ≤ b.name := by
  have exactly (a b : Component) : (!decide (b.name < a.name)) = true ↔ a.name ≤ b.name := by
    rw [Bool.not_eq_true',decide_eq_false_iff_not]
    exact String.not_lt
  have sorted : (byName cs).Pairwise fun a b => (!decide (b.name < a.name)) = true := by
    apply List.pairwise_mergeSort
    · intro a b c first second
      exact (exactly a c).mpr (String.le_trans ((exactly a b).mp first) ((exactly b c).mp second))
    · intro a b
      rw [Bool.or_eq_true,exactly,exactly]
      exact String.le_total a.name b.name
  exact sorted.imp fun {a b} ordered => (exactly a b).mp ordered

namespace Graph
variable {g : Graph} {id : String} {c : Component}

-- Every component is stored under its own id.
def Named (g : Graph) : Prop := ∀ e ∈ g.components.entries, e.2.id = e.1

theorem Named.ids (named : g.Named) : g.components.values.map (·.id) = g.components.keys := by
  rw [Table.values,Table.keys,List.map_map]
  exact List.map_congr_left named

theorem Named.distinct (named : g.Named) : (g.components.values.map (·.id)).Nodup :=
  named.ids ▸ g.components.keys_nodup

theorem Named.nodes (named : g.Named) (ends : g.WiresEnd) : g.nodes = g.components.keys := by
  rw [Graph.nodes,named.ids,distinct_append_known g.components.keys_nodup]
  intro x member
  obtain ⟨w,stored,member⟩ := List.mem_flatMap.mp member
  obtain ⟨starts,stops⟩ := ends w stored
  rcases List.mem_cons.mp member with rfl | last
  · exact Table.contains_iff.mp starts
  · rw [List.mem_singleton.mp last]
    exact Table.contains_iff.mp stops

theorem digraph_ids (g : Graph) : g.digraph.ids = g.nodes := by
  simp [digraph,Adjacency.ids,Function.comp_def]

theorem digraph_tidy (g : Graph) : g.digraph.Tidy where
  distinct := by
    rw [digraph_ids]
    exact distinct_nodup _
  closed := by
    intro a b leads
    rw [digraph_leads] at leads
    obtain ⟨w,stored,_,rfl⟩ := leads
    rw [digraph_ids,nodes,mem_distinct]
    exact List.mem_append_right _ (List.mem_flatMap.mpr ⟨w,stored,by simp⟩)

theorem digraph_row (g : Graph) (member : id ∈ g.nodes) : g.digraph.row id = g.successors id := by
  rw [digraph,Adjacency.row_map,if_pos member]

theorem recordWithId_ok (distinct : (g.components.values.map (·.id)).Nodup)
    (stored : c ∈ g.components.values) : g.recordWithId c.id = .ok c := by
  rw [recordWithId,recordWithId_eq distinct stored]

-- The ids of components stand for the components, in their order.
theorem records_found (distinct : (g.components.values.map (·.id)).Nodup) {ids : List String}
    (known : ∀ id ∈ ids, id ∈ g.components.values.map (·.id)) :
    (ids.filterMap g.recordWithId?).map (·.id) = ids ∧
      (∀ c ∈ ids.filterMap g.recordWithId?, c ∈ g.components.values) ∧
      ids.mapM g.recordWithId = .ok (ids.filterMap g.recordWithId?) := by
  induction ids with
  | nil => exact ⟨rfl,by simp,rfl⟩
  | cons id rest ih =>
    obtain ⟨c,stored,rfl⟩ := List.mem_map.mp (known id (by simp))
    obtain ⟨same,listed,found⟩ := ih fun id member => known id (List.mem_cons_of_mem _ member)
    rw [List.filterMap_cons_some (recordWithId_eq distinct stored)]
    refine ⟨by rw [List.map_cons,same],?_,?_⟩
    · intro d member
      rcases List.mem_cons.mp member with rfl | later
      · exact stored
      · exact listed d later
    · rw [List.mapM_cons,recordWithId_ok distinct stored,found]
      rfl

-- The components that the wires of `c` lead to, each once and by name.
structure Targets (g : Graph) (c : Component) (targets : List Component) : Prop where
  distinct : targets.Nodup
  joined : ∀ d, d ∈ targets ↔ d ∈ g.components.values ∧ g.Joins c.id d.id
  sorted : targets.Pairwise fun a b => a.name ≤ b.name

def targetsOf (g : Graph) (c : Component) : List Component :=
  Plan.byName ((g.successors c.id).filterMap g.recordWithId?)

theorem successors_known (named : g.Named) (ends : g.WiresEnd) (id : String) :
    ∀ s ∈ g.successors id, s ∈ g.components.values.map (·.id) := by
  intro s member
  obtain ⟨w,joins,_,rfl⟩ := (mem_successors g id s).mp member
  rw [named.ids]
  exact Table.contains_iff.mp (ends w joins).2

theorem targetsOf_targets (named : g.Named) (ends : g.WiresEnd) (c : Component) :
    g.Targets c (g.targetsOf c) := by
  obtain ⟨same,listed,_⟩ := records_found named.distinct (successors_known named ends c.id)
  refine ⟨?_,?_,Plan.byName_sorted _⟩
  · rw [targetsOf,(Plan.byName_perm _).nodup_iff]
    refine List.Nodup.of_map (·.id) ?_
    rw [same]
    exact distinct_nodup _
  · intro d
    rw [targetsOf,(Plan.byName_perm _).mem_iff,← mem_successors]
    constructor
    · intro member
      refine ⟨listed d member,?_⟩
      rw [← same]
      exact List.mem_map_of_mem member
    · rintro ⟨stored,leads⟩
      rw [← same] at leads
      obtain ⟨e,member,alike⟩ := List.mem_map.mp leads
      rwa [← List.inj_on_of_nodup_map named.distinct (listed e member) stored alike]

theorem planEntry_lines (named : g.Named) (ends : g.WiresEnd) (stored : c ∈ g.components.values)
    (n : Nat) : g.planEntry g.digraph n c.id =
      .ok (Plan.entryLine n c :: (g.targetsOf c).map Plan.arrowLine) := by
  have node : c.id ∈ g.nodes := by
    rw [named.nodes ends,← named.ids]
    exact List.mem_map_of_mem stored
  obtain ⟨_,_,found⟩ := records_found named.distinct (successors_known named ends c.id)
  rw [planEntry,recordWithId_ok named.distinct stored,digraph_row g node,found]
  rfl

-- The lines of the components in order, the first of them being the `n`-th entry.
def planLines (targets : Component → List Component) (order : List Component) (n : Nat) :
    List String :=
  (order.zipIdx n).flatMap fun e => Plan.entryLine e.2 e.1 :: (targets e.1).map Plan.arrowLine

theorem planEntries_lines (named : g.Named) (ends : g.WiresEnd) {order : List Component}
    (stored : ∀ c ∈ order, c ∈ g.components.values) (n : Nat) : ∃ entries,
      ((order.map (·.id)).zipIdx n).mapM (fun e => g.planEntry g.digraph e.2 e.1) = .ok entries ∧
        entries.flatten = planLines g.targetsOf order n := by
  induction order generalizing n with
  | nil => exact ⟨[],rfl,rfl⟩
  | cons c rest ih =>
    obtain ⟨entries,all,lines⟩ := ih (fun d member => stored d (List.mem_cons_of_mem _ member)) (n + 1)
    refine ⟨(Plan.entryLine n c :: (g.targetsOf c).map Plan.arrowLine) :: entries,?_,?_⟩
    · rw [List.map_cons,List.zipIdx_cons,List.mapM_cons,
        planEntry_lines named ends (stored c (by simp)) n,all]
      rfl
    · rw [List.flatten_cons,lines]
      rfl

-- What a plan says of a graph: its components in order, each numbered, with the components that its
-- wires lead to below it.
structure Planned (g : Graph) (order : List Component) (text : String) : Prop where
  complete : order.Perm g.components.values
  forward : ∀ w ∈ g.wires.values, ∃ (i j : Nat) (p c : Component), i < j ∧ order[i]? = some p ∧
    order[j]? = some c ∧ p.id = w.producer ∧ c.id = w.consumer
  lines : ∃ targets, (∀ c ∈ order, g.Targets c (targets c)) ∧
    text = "\n".intercalate (Plan.heading :: planLines targets order 1)

-- In a grounded list, what a member leads to has a later place.
theorem grounded_places {next : String → String → Prop} {order : List Component}
    (grounded : Grounded next (order.map (·.id))) {a b : String} (member : a ∈ order.map (·.id))
    (leads : next a b) : ∃ (i j : Nat) (p c : Component), i < j ∧ order[i]? = some p ∧
      order[j]? = some c ∧ p.id = a ∧ c.id = b := by
  induction order with
  | nil => cases member
  | cons head rest ih =>
    rw [List.map_cons] at grounded member
    rcases List.mem_cons.mp member with rfl | later
    · obtain ⟨c,stored,rfl⟩ := List.mem_map.mp (grounded.1 b leads)
      obtain ⟨j,bound,found⟩ := List.mem_iff_getElem.mp stored
      exact ⟨0,j + 1,head,c,by omega,rfl,by rw [List.getElem?_cons_succ,← found]; simp,rfl,rfl⟩
    · obtain ⟨i,j,p,c,before,first,second,same⟩ := ih grounded.2 later
      exact ⟨i + 1,j + 1,p,c,by omega,first,second,same⟩

theorem plan_cyclic (cyclic : g.hasCycle = .ok true) : g.plan = .ok Plan.cycleNotice := by
  have back := (answer_exact cyclic).mp rfl
  rw [← digraph_leads] at back
  rw [plan,(Adjacency.order_exact g.digraph_tidy).1.mpr back]

theorem plan_acyclic (named : g.Named) (ends : g.WiresEnd) (acyclic : g.hasCycle = .ok false) :
    ∃ order text, g.plan = .ok text ∧ g.Planned order text := by
  obtain ⟨fails,lists⟩ := Adjacency.order_exact g.digraph_tidy
  cases made : g.digraph.order? with
  | none =>
    have back := fails.mp made
    rw [digraph_leads] at back
    have no := (answer_exact acyclic).mpr back
    cases no
  | some ids =>
    obtain ⟨complete,grounded⟩ := lists ids made
    rw [digraph_ids,named.nodes ends,← named.ids] at complete
    rw [digraph_leads] at grounded
    obtain ⟨same,stored,_⟩ := records_found named.distinct fun id member =>
      complete.mem_iff.mp member
    obtain ⟨entries,all,lines⟩ := planEntries_lines named ends stored 1
    rw [same] at all
    refine ⟨ids.filterMap g.recordWithId?,_,?_,?_,?_,g.targetsOf,
      fun c _ => targetsOf_targets named ends c,rfl⟩
    · rw [plan,made]
      dsimp only
      rw [all,← lines]
      rfl
    · refine (List.perm_ext_iff_of_nodup ?_ ?_).mpr fun c => ⟨stored c,fun listed => ?_⟩
      · refine List.Nodup.of_map (·.id) ?_
        rw [same]
        exact complete.nodup_iff.mpr named.distinct
      · exact List.Nodup.of_map (·.id) named.distinct
      · have member : c.id ∈ ids := complete.mem_iff.mpr (List.mem_map_of_mem listed)
        exact List.mem_filterMap.mpr ⟨c.id,member,recordWithId_eq named.distinct listed⟩
    · intro w joins
      rw [← same] at grounded
      refine grounded_places grounded ?_ ⟨w,joins,rfl,rfl⟩
      rw [same,complete.mem_iff,named.ids]
      exact Table.contains_iff.mp (ends w joins).1

theorem Planned.not_notice {order : List Component} {text : String}
    (planned : g.Planned order text) : text ≠ Plan.cycleNotice := by
  obtain ⟨targets,_,rfl⟩ := planned.lines
  have begins (lines : List String) :
      Plan.heading.toList <+: ("\n".intercalate (Plan.heading :: lines)).toList := by
    rw [String.toList_intercalate,List.map_cons]
    cases lines with
    | nil => simp
    | cons line rest =>
      rw [List.map_cons,List.intercalate_cons_cons,List.append_assoc]
      exact List.prefix_append _ _
  intro same
  have no := begins (planLines targets order 1)
  rw [same] at no
  exact absurd no (by decide +kernel)

-- Where a component is not stored under its own id, the plan may leave another one out.
theorem plan_exact (g : Graph) (named : g.Named) (ends : g.WiresEnd) :
    (∃ cyclic, g.hasCycle = .ok cyclic ∧ (g.plan = .ok Plan.cycleNotice ↔ cyclic = true)) ∧
      (g.hasCycle = .ok false → ∃ order text, g.plan = .ok text ∧ g.Planned order text) := by
  refine ⟨?_,plan_acyclic named ends⟩
  obtain ⟨cyclic,answered⟩ := answers ends
  refine ⟨cyclic,answered,?_⟩
  cases cyclic with
  | true => exact ⟨fun _ => rfl,fun _ => plan_cyclic answered⟩
  | false =>
    obtain ⟨order,text,made,planned⟩ := plan_acyclic named ends answered
    refine ⟨fun notice => ?_,fun no => (nomatch no)⟩
    rw [made] at notice
    exact absurd (Except.ok.inj notice) planned.not_notice

-- Wires join `c` to `b` and `a` to both, one of them twice, and no component stands where it is
-- listed.
def relayed : Graph := restore
  { components := [{ id := "b", factory := "logger", name := "Z", role := .consumer },
      { id := "c", factory := "filter", name := "Y", role := .both },
      { id := "a", factory := "timer", name := "X", role := .producer }]
    wires := [⟨"1","c","b",true⟩,⟨"2","a","b",true⟩,⟨"3","a","c",true⟩,⟨"4","a","b",false⟩] } [] 0

theorem relayed_planned : relayed.Named ∧ relayed.WiresEnd ∧ relayed.hasCycle = .ok false ∧
    relayed.plan ≠ .ok Plan.cycleNotice ∧
      ∃ order text, relayed.plan = .ok text ∧ relayed.Planned order text := by
  have named : relayed.Named := by unfold Named; decide +kernel
  have ends : relayed.WiresEnd := by unfold WiresEnd; decide +kernel
  have acyclic : relayed.hasCycle = .ok false := by decide +kernel
  obtain ⟨⟨cyclic,answered,notice⟩,planned⟩ := plan_exact relayed named ends
  rw [acyclic] at answered
  cases answered
  refine ⟨named,ends,acyclic,?_,planned acyclic⟩
  intro same
  cases notice.mp same

-- Two components under one id, the first of them by hand.
def doubled : Graph := ((restore
  { components := [{ id := "a", factory := "timer", name := "A", role := .producer },
      { id := "b", factory := "logger", name := "B", role := .consumer }] } [] 0).amendComponent "a"
    [.id "b"]).2

-- The plan has the second of them only.
theorem doubled_unplanned : doubled.WiresEnd ∧ doubled.hasCycle = .ok false ∧
    doubled.components.values.length = 2 ∧
      ¬∃ order text, doubled.plan = .ok text ∧ doubled.Planned order text := by
  have ends : doubled.WiresEnd := by unfold WiresEnd; decide +kernel
  refine ⟨ends,by decide +kernel,by decide +kernel,?_⟩
  rintro ⟨order,text,made,planned⟩
  have written : doubled.plan =
      .ok "# ASCII Plan (topological order)\n01. B [logger] (consumer, unregistered)" := by
    decide +kernel
  rw [written] at made
  cases made
  obtain ⟨targets,found,same⟩ := planned.lines
  have none : ∀ c ∈ order, targets c = [] := by
    intro c member
    refine List.eq_nil_iff_forall_not_mem.mpr fun d target => ?_
    obtain ⟨_,w,stored,_⟩ := ((found c member).joined d).mp target
    have empty : doubled.wires.values = [] := by decide +kernel
    rw [empty] at stored
    cases stored
  have two : order.length = 2 := planned.complete.length_eq.trans (by decide +kernel)
  obtain ⟨x,y,rfl⟩ := List.length_eq_two.mp two
  -- Whichever two components are listed, the text has a line for each of them.
  have apart : ∀ x ∈ doubled.components.values, ∀ y ∈ doubled.components.values,
      "# ASCII Plan (topological order)\n01. B [logger] (consumer, unregistered)" ≠
        "\n".intercalate [Plan.heading,Plan.entryLine 1 x,Plan.entryLine 2 y] := by decide +kernel
  refine apart x (planned.complete.mem_iff.mp (by simp)) y (planned.complete.mem_iff.mp (by simp)) ?_
  rw [same]
  simp [planLines,none x (by simp),none y (by simp)]

end Graph

end WireGraph
