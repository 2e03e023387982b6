import WireGraph.Proofs.Cycle.Search

/-!
# What a search covers

The loop of a search, turn by turn, over any adjacency: its rows in any order, and ids in them that
have no row. Main statement: every state that the loop comes to is coherent; the loop ends; it finds
a cycle exactly when one can be reached from the start; and when it finds none, it has finished
exactly what can be reached.
-/

namespace WireGraph
open Relation

namespace Search
open Adjacency

-- One turn of the loop that does not end it.
def Advances (adj : Adjacency) (s t : Search) : Prop := s.step adj = .next t

-- The states that the loop comes to when it begins at `start`.
def Reached (adj : Adjacency) (start : String) : Search → Prop :=
  ReflTransGen (Advances adj) (enter adj start)

-- The marks are the ids on the path, each of which is a successor of the one below it; an id is not
-- finished while it is on the path; and what is finished leads only to what is finished.
structure Coherent (adj : Adjacency) (s : Search) : Prop where
  marked : ∀ id, id ∈ s.onPath ↔ id ∈ s.path.map Prod.fst
  linked : (s.path.map Prod.fst).IsChain fun upper lower => adj.Leads lower upper
  apart : ∀ id ∈ s.onPath, id ∉ s.finished
  closed : ∀ id ∈ s.finished, ∀ succ, adj.Leads id succ → succ ∈ s.finished

variable {adj : Adjacency} {start : String} {s : Search}

theorem Stacked.chain {finished : List String} {above : Option String}
    {stack : List (String × List String)} (stacked : Stacked adj finished above stack) :
    (stack.map Prod.fst).IsChain fun upper lower => adj.Leads lower upper := by
  induction stack generalizing above with
  | nil => exact .nil
  | cons entry below ih =>
    obtain ⟨_,_,_,deeper⟩ := stacked
    have onward := ih deeper
    cases below with
    | nil => exact .singleton _
    | cons next rest =>
      obtain ⟨_,entered,_,_⟩ := deeper
      exact .cons_cons (entered entry.1 rfl) onward

theorem Valid.coherent (valid : s.Valid adj start) : s.Coherent adj where
  marked := by
    intro id
    rw [valid.marked]
  linked := valid.stacked.chain
  apart := valid.apart
  closed := fun _ member _ leads => valid.grounded.step member leads

theorem Reached.valid (reached : Reached adj start s) : s.Valid adj start := by
  induction reached with
  | refl => exact enter_valid adj start
  | tail _ step ih => exact step_valid ih step

-- The state that a run ends with is one that the loop comes to.
theorem run_advances (adj : Adjacency) (s : Search) :
    ReflTransGen (Advances adj) s (s.run adj).2 := by
  fun_induction Search.run adj s with
  | case1 s found => exact .refl
  | case2 s exhausted => exact .refl
  | case3 s t step ih => exact .head step ih

-- With nothing left on the path, everything that can be reached is finished, and nothing else is.
theorem exhausted_reaches (valid : s.Valid adj start) (exhausted : s.step adj = .exhausted)
    (id : String) : id ∈ s.finished ↔ ReflTransGen adj.Leads start id := by
  constructor
  · intro member
    exact valid.reached id (.inr member)
  · intro path
    exact valid.grounded.leads (exhausted_finished valid exhausted) path

theorem covers_exactly (adj : Adjacency) (start : String) :
    (∀ s t : Search, Advances adj s t → t.weight adj < s.weight adj) ∧
    (∀ s, Reached adj start s → s.Coherent adj) ∧
    ∃ last, (enter adj start).run adj = (adj.reachesCycle start,last) ∧ Reached adj start last ∧
      (adj.reachesCycle start = true ↔
        ∃ id, ReflTransGen adj.Leads start id ∧ TransGen adj.Leads id id) ∧
      (adj.reachesCycle start = false →
        ∀ id, id ∈ last.finished ↔ ReflTransGen adj.Leads start id) := by
  refine ⟨fun s t step => weight_step step,fun s reached => reached.valid.coherent,
    ((enter adj start).run adj).2,rfl,run_advances adj _,reaches_exact adj start,?_⟩
  intro none
  obtain ⟨last,valid,⟨ran,found⟩ | ⟨ran,exhausted⟩⟩ := run_ends (enter_valid adj start)
  · rw [reachesCycle,ran] at none
    cases none
  · rw [ran]
    exact exhausted_reaches valid exhausted

-- Two branches from `a` meet in `d`, which has no row; nothing comes back.
def fork : Adjacency := [("a",["b","c"]),("b",["d"]),("c",["d","e"])]

-- With one row more, the second branch comes back to `c` behind what the first one has finished.
theorem fork_covered :
    fork.reachesCycle "a" = false ∧
      (∀ id, id ∈ ["a","c","e","b","d"] ↔ ReflTransGen fork.Leads "a" id) ∧
      Adjacency.reachesCycle (("e",["c"]) :: fork) "a" = true := by
  have ran : (enter fork "a").run fork = (false,⟨[],[],["a","c","e","b","d"]⟩) := by decide +kernel
  have none : fork.reachesCycle "a" = false := by rw [reachesCycle,ran]
  obtain ⟨_,_,last,ends,_,_,finished⟩ := covers_exactly fork "a"
  rw [ran,none] at ends
  cases ends
  refine ⟨none,finished none,?_⟩
  obtain ⟨_,_,_,_,_,found,_⟩ := covers_exactly (("e",["c"]) :: fork) "a"
  have down : Leads (("e",["c"]) :: fork) "a" "c" := by unfold Leads; decide
  have out : Leads (("e",["c"]) :: fork) "c" "e" := by unfold Leads; decide
  have back : Leads (("e",["c"]) :: fork) "e" "c" := by unfold Leads; decide
  exact found.mpr ⟨"c",.single down,.tail (.single out) back⟩

end Search

end WireGraph
