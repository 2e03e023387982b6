import WireGraph.Graph.Store
import WireGraph.Proofs.Cycle.Tour

/-!
# What a search finds

The search for a cycle from one start, against the edges of its adjacency. Main statements: every
state of the search is valid; the search finds a cycle exactly when one can be reached from the
start; and there is a cycle at all exactly when the search of some start finds one, in whatever order
the rows and the ids in them are listed.
-/

namespace WireGraph
open Relation

namespace Adjacency
variable {adj : Adjacency} {a b : String}

-- The row of the first id holds the second.
def Leads (adj : Adjacency) (a b : String) : Prop := b ∈ adj.row a

theorem leads_row (leads : adj.Leads a b) : ∃ r ∈ adj, r.1 = a ∧ b ∈ r.2 := by
  induction adj with
  | nil => cases leads
  | cons r adj ih =>
    unfold Leads at leads
    rw [row_cons] at leads
    split at leads
    · rename_i same
      exact ⟨r,by simp,same.symm,leads⟩
    · obtain ⟨found,member,rest⟩ := ih leads
      exact ⟨found,List.mem_cons_of_mem _ member,rest⟩

theorem row_of_mem (distinct : adj.ids.Nodup) {r : String × List String} (member : r ∈ adj) :
    adj.row r.1 = r.2 := by
  induction adj with
  | nil => cases member
  | cons head adj ih =>
    obtain ⟨new,distinct⟩ := List.nodup_cons.mp distinct
    rw [row_cons]
    rcases List.mem_cons.mp member with rfl | later
    · rw [if_pos rfl]
    · have different : r.1 ≠ head.1 := by
        intro same
        exact new (same ▸ List.mem_map_of_mem later)
      rw [if_neg different]
      exact ih distinct later

end Adjacency

namespace Search
open Adjacency

-- The id at hand has no successor left and is finished; or its next successor is passed over, being
-- finished; or it is entered.
inductive Moves (adj : Adjacency) : Search → Search → Prop where
  | finish {id : String} {below : List (String × List String)} {onPath finished : List String} :
      Moves adj ⟨(id,[]) :: below,onPath,finished⟩
        ⟨below,onPath.filter (· != id),id :: finished⟩
  | pass {id succ : String} {rest onPath finished : List String}
      {below : List (String × List String)} (off : succ ∉ onPath) (done : succ ∈ finished) :
      Moves adj ⟨(id,succ :: rest) :: below,onPath,finished⟩ ⟨(id,rest) :: below,onPath,finished⟩
  | enter {id succ : String} {rest onPath finished : List String}
      {below : List (String × List String)} (off : succ ∉ onPath) (new : succ ∉ finished) :
      Moves adj ⟨(id,succ :: rest) :: below,onPath,finished⟩
        ⟨(succ,adj.row succ) :: (id,rest) :: below,succ :: onPath,finished⟩

-- `above` is the id entered from the first entry, if there is one. A successor of an entry is still
-- to be tried, or is finished, or is the id above.
def Stacked (adj : Adjacency) (finished : List String) :
    Option String → List (String × List String) → Prop
  | _, [] => True
  | above, (id,left) :: below =>
    (∀ s ∈ left, adj.Leads id s) ∧ (∀ s ∈ above, adj.Leads id s) ∧
      (∀ s, adj.Leads id s → s ∈ left ∨ s ∈ finished ∨ above = some s) ∧
      Stacked adj finished (some id) below

-- The marks are the path itself, and nothing on it is finished; what is finished leads only to what
-- was finished before.
structure Valid (adj : Adjacency) (start : String) (s : Search) : Prop where
  marked : s.onPath = s.path.map Prod.fst
  simple : s.onPath.Nodup
  stacked : Stacked adj s.finished none s.path
  grounded : Grounded adj.Leads s.finished
  apart : ∀ id ∈ s.onPath, id ∉ s.finished
  started : start ∈ s.onPath ∨ start ∈ s.finished
  reached : ∀ id, id ∈ s.onPath ∨ id ∈ s.finished → ReflTransGen adj.Leads start id

variable {adj : Adjacency} {start id succ : String} {rest onPath finished : List String}
  {below stack : List (String × List String)}

theorem Stacked.finish {above : Option String} (stacked : Stacked adj finished above stack) :
    Stacked adj (id :: finished) above stack := by
  induction stack generalizing above with
  | nil => trivial
  | cons entry below ih =>
    obtain ⟨untried,entered,tried,deeper⟩ := stacked
    refine ⟨untried,entered,?_,ih deeper⟩
    intro s leads
    rcases tried s leads with left | done | on
    · exact .inl left
    · exact .inr (.inl (List.mem_cons_of_mem _ done))
    · exact .inr (.inr on)

-- The id above may go once it is finished.
theorem Stacked.lower (stacked : Stacked adj finished (some id) stack) (done : id ∈ finished) :
    Stacked adj finished none stack := by
  cases stack with
  | nil => trivial
  | cons entry below =>
    obtain ⟨untried,_,tried,deeper⟩ := stacked
    refine ⟨untried,by simp,?_,deeper⟩
    intro s leads
    rcases tried s leads with left | old | on
    · exact .inl left
    · exact .inr (.inl old)
    · cases on; exact .inr (.inl done)

theorem Stacked.leads {above x : String} (stacked : Stacked adj finished (some above) stack)
    (member : x ∈ stack.map Prod.fst) : TransGen adj.Leads x above := by
  induction stack generalizing above with
  | nil => cases member
  | cons entry below ih =>
    obtain ⟨_,entered,_,deeper⟩ := stacked
    have step : adj.Leads entry.1 above := entered above rfl
    rcases List.mem_cons.mp member with rfl | later
    · exact .single step
    · exact .tail (ih deeper later) step

theorem enter_valid (adj : Adjacency) (start : String) : (enter adj start).Valid adj start where
  marked := rfl
  simple := by simp [enter]
  stacked := ⟨fun _ member => member,by simp,fun _ leads => .inl leads,trivial⟩
  grounded := trivial
  apart := by simp [enter]
  started := .inl (by simp [enter])
  reached := by
    intro id member
    have same : id = start := by simpa [enter] using member
    rw [same]

theorem step_moves {s t : Search} (step : s.step adj = .next t) : Moves adj s t := by
  obtain ⟨path,onPath,finished⟩ := s
  unfold Search.step at step
  dsimp only at step
  split at step
  · cases step
  · cases step; exact .finish
  · split at step
    · cases step
    · rename_i off
      have off := by simpa using off
      split at step
      · rename_i done
        cases step
        exact .pass off (by simpa using done)
      · rename_i new
        cases step
        exact .enter off (by simpa using new)

theorem step_found {s : Search} (found : s.step adj = .found) :
    ∃ id succ rest below, s.path = (id,succ :: rest) :: below ∧ succ ∈ s.onPath := by
  obtain ⟨path,onPath,finished⟩ := s
  unfold Search.step at found
  dsimp only at found
  split at found
  · cases found
  · cases found
  · split at found
    · rename_i on
      exact ⟨_,_,_,_,rfl,by simpa using on⟩
    · split at found <;> cases found

theorem step_exhausted {s : Search} (exhausted : s.step adj = .exhausted) : s.path = [] := by
  obtain ⟨path,onPath,finished⟩ := s
  unfold Search.step at exhausted
  dsimp only at exhausted
  split at exhausted
  · rfl
  · cases exhausted
  · split at exhausted
    · cases exhausted
    · split at exhausted <;> cases exhausted

-- Every successor of the id is finished, so it may be finished itself.
theorem finish_valid
    (valid : Valid adj start ⟨(id,[]) :: below,onPath,finished⟩) :
    Valid adj start ⟨below,onPath.filter (· != id),id :: finished⟩ := by
  obtain ⟨marked,simple,⟨_,_,tried,deeper⟩,grounded,apart,started,reached⟩ := valid
  dsimp only at marked simple grounded apart started reached
  subst marked
  obtain ⟨new,simple⟩ := List.nodup_cons.mp simple
  have rest : (((id,[]) :: below).map Prod.fst).filter (· != id) = below.map Prod.fst := by
    rw [List.map_cons,List.filter_cons_of_neg (by simp),List.filter_eq_self]
    intro x member
    simp only [bne_iff_ne]
    rintro rfl
    exact new member
  rw [rest]
  refine ⟨rfl,simple,deeper.finish.lower (by simp),⟨?_,grounded⟩,?_,?_,?_⟩
  · intro s leads
    rcases tried s leads with left | done | on
    · cases left
    · exact done
    · cases on
  · intro x member
    simp only [List.mem_cons,not_or]
    refine ⟨?_,apart x (List.mem_cons_of_mem _ member)⟩
    rintro rfl
    exact new member
  · rcases started with on | done
    · rcases List.mem_cons.mp on with rfl | later
      · exact .inr (by simp)
      · exact .inl later
    · exact .inr (List.mem_cons_of_mem _ done)
  · intro x member
    rcases member with on | done
    · exact reached x (.inl (List.mem_cons_of_mem _ on))
    · rcases List.mem_cons.mp done with rfl | old
      · exact reached x (.inl (by simp))
      · exact reached x (.inr old)

theorem pass_valid (valid : Valid adj start ⟨(id,succ :: rest) :: below,onPath,finished⟩)
    (done : succ ∈ finished) : Valid adj start ⟨(id,rest) :: below,onPath,finished⟩ := by
  obtain ⟨marked,simple,⟨untried,entered,tried,deeper⟩,grounded,apart,started,reached⟩ := valid
  refine ⟨marked,simple,⟨?_,entered,?_,deeper⟩,grounded,apart,started,reached⟩
  · exact fun s member => untried s (List.mem_cons_of_mem _ member)
  · intro s leads
    rcases tried s leads with left | old | on
    · rcases List.mem_cons.mp left with rfl | later
      · exact .inr (.inl done)
      · exact .inl later
    · exact .inr (.inl old)
    · exact .inr (.inr on)

theorem entered_valid (valid : Valid adj start ⟨(id,succ :: rest) :: below,onPath,finished⟩)
    (off : succ ∉ onPath) (new : succ ∉ finished) :
    Valid adj start ⟨(succ,adj.row succ) :: (id,rest) :: below,succ :: onPath,finished⟩ := by
  obtain ⟨marked,simple,⟨untried,_,tried,deeper⟩,grounded,apart,started,reached⟩ := valid
  have leads : adj.Leads id succ := untried succ (by simp)
  have top : id ∈ onPath := by
    rw [show onPath = _ from marked]
    exact List.mem_cons_self
  have stacked : Stacked adj finished (some succ) ((id,rest) :: below) := by
    refine ⟨fun s member => untried s (List.mem_cons_of_mem _ member),?_,?_,deeper⟩
    · intro s same
      cases same
      exact leads
    · intro s step
      rcases tried s step with left | old | on
      · rcases List.mem_cons.mp left with rfl | later
        · exact .inr (.inr rfl)
        · exact .inl later
      · exact .inr (.inl old)
      · cases on
  refine ⟨congrArg (succ :: ·) marked,List.nodup_cons.mpr ⟨off,simple⟩,
    ⟨fun _ member => member,by simp,fun _ leads => .inl leads,stacked⟩,grounded,?_,?_,?_⟩
  · intro x member
    rcases List.mem_cons.mp member with rfl | on
    · exact new
    · exact apart x on
  · rcases started with on | done
    · exact .inl (List.mem_cons_of_mem _ on)
    · exact .inr done
  · intro x member
    rcases member with on | done
    · rcases List.mem_cons.mp on with rfl | old
      · exact .tail (reached id (.inl top)) leads
      · exact reached x (.inl old)
    · exact reached x (.inr done)

theorem step_valid {s t : Search} (valid : s.Valid adj start) (step : s.step adj = .next t) :
    t.Valid adj start := by
  cases step_moves step with
  | finish => exact finish_valid valid
  | pass off done => exact pass_valid valid done
  | enter off new => exact entered_valid valid off new

-- A run ends in a valid state, with a successor on the path or with nothing left on it.
theorem run_ends {s : Search} (valid : s.Valid adj start) :
    ∃ last, last.Valid adj start ∧
      ((s.run adj = (true,last) ∧ last.step adj = .found) ∨
        (s.run adj = (false,last) ∧ last.step adj = .exhausted)) := by
  fun_induction Search.run adj s with
  | case1 s found => exact ⟨s,valid,.inl ⟨rfl,found⟩⟩
  | case2 s exhausted => exact ⟨s,valid,.inr ⟨rfl,exhausted⟩⟩
  | case3 s t step ih => exact ih (step_valid valid step)

theorem found_returns {s : Search} (valid : s.Valid adj start) (found : s.step adj = .found) :
    ∃ id, ReflTransGen adj.Leads start id ∧ TransGen adj.Leads id id := by
  obtain ⟨id,succ,rest,below,pathAt,on⟩ := step_found found
  have stacked := valid.stacked
  rw [pathAt] at stacked
  obtain ⟨untried,_,_,deeper⟩ := stacked
  have leads : adj.Leads id succ := untried succ (by simp)
  refine ⟨succ,valid.reached succ (.inl on),?_⟩
  rw [valid.marked,pathAt] at on
  rcases List.mem_cons.mp on with same | member
  · rw [show succ = id from same] at leads ⊢
    exact .single leads
  · exact .tail (deeper.leads member) leads

theorem exhausted_finished {s : Search} (valid : s.Valid adj start)
    (exhausted : s.step adj = .exhausted) : start ∈ s.finished := by
  rcases valid.started with on | done
  · rw [valid.marked,step_exhausted exhausted] at on
    cases on
  · exact done

end Search

namespace Adjacency

theorem reaches_exact (adj : Adjacency) (start : String) :
    adj.reachesCycle start = true ↔
      ∃ id, ReflTransGen adj.Leads start id ∧ TransGen adj.Leads id id := by
  obtain ⟨last,valid,⟨ran,found⟩ | ⟨ran,exhausted⟩⟩ := Search.run_ends (Search.enter_valid adj start)
  · simp only [reachesCycle,ran,true_iff]
    exact Search.found_returns valid found
  · simp only [reachesCycle,ran,Bool.false_eq_true,false_iff]
    rintro ⟨id,path,back⟩
    have member := valid.grounded.leads (Search.exhausted_finished valid exhausted) path
    exact valid.grounded.no_return member back

-- A start that no edge leads to lies on no cycle, so it is no loss that none is searched from it.
theorem cycle_exact (adj : Adjacency) :
    adj.hasCycle = true ↔ ∃ id, TransGen adj.Leads id id := by
  simp only [hasCycle,List.any_eq_true,List.mem_filter]
  constructor
  · rintro ⟨start,_,found⟩
    obtain ⟨id,_,back⟩ := (reaches_exact adj start).mp found
    exact ⟨id,back⟩
  · rintro ⟨id,back⟩
    obtain ⟨next,out,_⟩ := TransGen.head'_iff.mp back
    obtain ⟨last,_,into⟩ := TransGen.tail'_iff.mp back
    obtain ⟨r,member,same,_⟩ := leads_row out
    obtain ⟨r',member',_,target⟩ := leads_row into
    refine ⟨id,⟨List.mem_map.mpr ⟨r,member,same⟩,?_⟩,?_⟩
    · simp only [targets,List.contains_iff_mem,List.mem_flatMap]
      exact ⟨r',member',target⟩
    · exact (reaches_exact adj id).mpr ⟨id,.refl,back⟩

theorem row_map (ids : List String) (f : String → List String) (id : String) :
    row (ids.map fun i => (i,f i)) id = if id ∈ ids then f id else [] := by
  induction ids with
  | nil => rfl
  | cons head rest ih =>
    rw [List.map_cons,row_cons,ih]
    by_cases same : id = head
    · subst same; simp
    · simp [same]

end Adjacency

namespace Graph
variable {g : Graph} {adj : Adjacency} {a b : String}

-- The rows of the adjacency are those of the graph, and each of them holds the successors of its
-- component; neither the rows nor the ids in them need to be in any order.
structure Lists (g : Graph) (adj : Adjacency) : Prop where
  ids : adj.ids.Perm g.components.keys
  rows : ∀ r ∈ adj, r.2.Perm (g.successors r.1)

theorem adjacency_lists (g : Graph) : g.Lists g.adjacency where
  ids := by
    have same : g.adjacency.ids = g.components.keys := by
      simp [adjacency,Adjacency.ids,Function.comp_def]
    rw [same]
  rows := by
    intro r member
    obtain ⟨id,_,rfl⟩ := List.mem_map.mp member
    exact List.Perm.refl _

theorem Lists.leads (lists : g.Lists adj)
    (starts : ∀ w ∈ g.wires.values, g.contains w.producer = true) :
    adj.Leads a b ↔ g.Joins a b := by
  rw [← mem_successors]
  constructor
  · intro leads
    obtain ⟨r,member,rfl,target⟩ := Adjacency.leads_row leads
    exact (lists.rows r member).mem_iff.mp target
  · intro joined
    obtain ⟨w,stored,rfl,_⟩ := (mem_successors g a b).mp joined
    have listed : w.producer ∈ adj.ids :=
      lists.ids.mem_iff.mpr (Table.contains_iff.mp (starts w stored))
    obtain ⟨r,member,same⟩ := List.mem_map.mp listed
    have distinct : adj.ids.Nodup := lists.ids.nodup_iff.mpr g.components.keys_nodup
    rw [Adjacency.Leads,← same,Adjacency.row_of_mem distinct member]
    rw [← same] at joined
    exact (lists.rows r member).mem_iff.mpr joined

theorem lists_cycle (lists : g.Lists adj)
    (starts : ∀ w ∈ g.wires.values, g.contains w.producer = true) :
    adj.hasCycle = true ↔ ∃ id, TransGen g.Joins id id := by
  have same : adj.Leads = g.Joins := by
    funext a b
    exact propext (lists.leads starts)
  rw [Adjacency.cycle_exact,same]

theorem dangling_none :
    g.danglingProducer? = none ↔ ∀ w ∈ g.wires.values, g.contains w.producer = true := by
  simp [danglingProducer?]

-- Whenever the question is answered, the answer is right; a wire without a producer stops it.
theorem answer_exact {found : Bool} (answered : g.hasCycle = .ok found) :
    found = true ↔ ∃ id, TransGen g.Joins id id := by
  unfold hasCycle at answered
  split at answered
  · cases answered
  · rename_i starts
    cases answered
    exact lists_cycle g.adjacency_lists (dangling_none.mp starts)

theorem answers (ends : g.WiresEnd) : ∃ found, g.hasCycle = .ok found := by
  have starts := dangling_none.mpr fun w stored => (ends w stored).1
  exact ⟨g.adjacency.hasCycle,by simp only [hasCycle,starts]⟩

theorem hasCycle_iff_tour (g : Graph) (ends : g.WiresEnd) :
    (∃ found, g.hasCycle = .ok found ∧ (found = true ↔ ∃ wires, g.Tour wires)) ∧
      ∀ adj, g.Lists adj → (adj.hasCycle = true ↔ ∃ wires, g.Tour wires) := by
  refine ⟨?_,?_⟩
  · obtain ⟨found,answered⟩ := answers ends
    exact ⟨found,answered,(answer_exact answered).trans g.tour_exact.symm⟩
  · intro adj lists
    exact (lists_cycle lists fun w stored => (ends w stored).1).trans g.tour_exact.symm

-- Two branches meet in `d`, which leads back into the second of them: a search from `b` or `d` goes
-- through `c`, and `d` is met again on its own path only. One wire has a parallel.
def branches : Graph := .restore
  { components := ["a","b","c","d"].map fun id => { id, factory := "timer", name := id, role := .both }
    wires := [⟨"ab","a","b",false⟩,⟨"bd","b","d",false⟩,⟨"ac","a","c",false⟩,⟨"cd","c","d",false⟩,
      ⟨"more","c","d",true⟩,⟨"dc","d","c",true⟩] } [] 0

theorem branches_return :
    branches.WiresEnd ∧ branches.Tour [⟨"more","c","d",true⟩,⟨"dc","d","c",true⟩] ∧
      branches.hasCycle = .ok true ∧ branches.Lists branches.adjacency.reverse ∧
      Adjacency.hasCycle branches.adjacency.reverse = true := by
  have ends : branches.WiresEnd := by unfold WiresEnd; decide
  have tour : branches.Tour [⟨"more","c","d",true⟩,⟨"dc","d","c",true⟩] :=
    ⟨by simp,by decide,by simp,rfl⟩
  have lists : branches.Lists branches.adjacency.reverse := by
    refine ⟨?_,fun r member => branches.adjacency_lists.rows r (List.mem_reverse.mp member)⟩
    exact ((List.reverse_perm _).map _).trans branches.adjacency_lists.ids
  obtain ⟨⟨found,answered,exactly⟩,listed⟩ := hasCycle_iff_tour branches ends
  refine ⟨ends,tour,?_,lists,(listed _ lists).mpr ⟨_,tour⟩⟩
  rw [answered,exactly.mpr ⟨_,tour⟩]

end Graph

end WireGraph
