import WireGraph.Graph.Basic

/-!
# Search for a cycle from one start

A depth-first search over an adjacency. It holds the path from the start to the id at hand, each id
with the successors it has still to try, and the ids that are finished: everything they reach has
been tried. The search finds a cycle when a successor is on the path.

Main statement: each step lowers `Search.weight`, so the search ends.
-/

namespace WireGraph

namespace Adjacency

-- The ids that wires from `id` lead to; an id without a row has none.
def row (adj : Adjacency) (id : String) : List String := (adj.lookup id).getD []

def ids (adj : Adjacency) : List String := adj.map Prod.fst

def targets (adj : Adjacency) : List String := adj.flatMap Prod.snd

-- Twice the number of entries in the rows of ids that are not `seen`.
def weightOutside (adj : Adjacency) (seen : List String) : Nat :=
  (adj.map fun r => if seen.contains r.1 then 0 else 2 * r.2.length).foldr (· + ·) 0

@[simp] theorem row_nil (id : String) : row [] id = [] := rfl

theorem row_cons (r : String × List String) (adj : Adjacency) (id : String) :
    row (r :: adj) id = if id = r.1 then r.2 else row adj id := by
  obtain ⟨k, ids⟩ := r
  by_cases h : id = k
  · subst h; simp [row]
  · have : (id == k) = false := by simpa using h
    simp [row, List.lookup_cons, this, h]

theorem weightOutside_cons (r : String × List String) (adj : Adjacency) (seen : List String) :
    weightOutside (r :: adj) seen
      = (if r.1 ∈ seen then 0 else 2 * r.2.length) + weightOutside adj seen := by
  simp [weightOutside]

theorem weightOutside_mono (adj : Adjacency) (seen more : List String)
    (h : ∀ id ∈ seen, id ∈ more) : adj.weightOutside more ≤ adj.weightOutside seen := by
  induction adj with
  | nil => simp [weightOutside]
  | cons r adj ih =>
    rw [weightOutside_cons, weightOutside_cons]
    have := h r.1
    split <;> split <;> simp_all
    omega

-- Entering an id that was not seen takes its row out of the weight.
theorem weightOutside_enter (adj : Adjacency) (seen : List String) (id : String) (h : id ∉ seen) :
    adj.weightOutside (id :: seen) + 2 * (adj.row id).length ≤ adj.weightOutside seen := by
  induction adj with
  | nil => simp [weightOutside]
  | cons r adj ih =>
    have mono := weightOutside_mono adj seen (id :: seen)
      (fun x hx => List.mem_cons_of_mem _ hx)
    rw [weightOutside_cons, weightOutside_cons, row_cons]
    by_cases same : id = r.1
    · rw [if_pos same, if_pos (by simp [same]), if_neg (same ▸ h)]
      omega
    · rw [if_neg same]
      have : r.1 ∈ id :: seen ↔ r.1 ∈ seen := by simp [Ne.symm same]
      simp only [this]
      omega

end Adjacency

-- The path, its ids, and the finished ids; the id at hand comes first.
structure Search where
  path : List (String × List String)
  onPath : List String
  finished : List String
deriving DecidableEq, Repr

inductive Search.Progress where
  | found
  | exhausted
  | next (s : Search)

namespace Search

def enter (adj : Adjacency) (start : String) : Search := ⟨[(start, adj.row start)], [start], []⟩

-- Tries the next successor of the id at hand. With none left, the id is finished; one on the path
-- closes a cycle; a finished one is passed over; any other one is entered.
def step (adj : Adjacency) (s : Search) : Progress :=
  match s.path with
  | [] => .exhausted
  | (id, []) :: below =>
    .next ⟨below, s.onPath.filter (· != id), id :: s.finished⟩
  | (id, succ :: rest) :: below =>
    if s.onPath.contains succ then .found
    else if s.finished.contains succ then .next { s with path := (id, rest) :: below }
    else .next ⟨(succ, adj.row succ) :: (id, rest) :: below, succ :: s.onPath, s.finished⟩

-- The work that is left: the successors still to be tried, and the rows not entered yet.
def weight (adj : Adjacency) (s : Search) : Nat :=
  adj.weightOutside (s.onPath ++ s.finished) + (s.path.map fun e => 1 + 2 * e.2.length).foldr (· + ·) 0

theorem weight_step {adj : Adjacency} {s t : Search} (h : s.step adj = .next t) :
    t.weight adj < s.weight adj := by
  obtain ⟨path, onPath, finished⟩ := s
  unfold step at h
  split at h
  · cases h
  · rename_i id below pathEq
    cases pathEq
    cases h
    have mono := adj.weightOutside_mono (onPath ++ finished)
      (onPath.filter (· != id) ++ id :: finished) (by
        intro x hx
        by_cases same : x = id
        · simp [same]
        · simp only [List.mem_append, List.mem_cons, List.mem_filter] at hx ⊢
          rcases hx with hx | hx
          · exact .inl ⟨hx, by simpa using same⟩
          · exact .inr (.inr hx))
    simp only [weight, List.map_cons, List.foldr_cons, List.length_nil]
    omega
  · rename_i id succ rest below pathEq
    cases pathEq
    split at h
    · cases h
    · rename_i notOn
      split at h
      · cases h
        simp only [weight, List.map_cons, List.foldr_cons, List.length_cons]
        omega
      · rename_i notFinished
        cases h
        have entered := adj.weightOutside_enter (onPath ++ finished) succ (by
          simp only [List.mem_append, not_or]
          exact ⟨by simpa using notOn, by simpa using notFinished⟩)
        simp only [weight, List.map_cons, List.foldr_cons, List.length_cons, List.cons_append]
        omega

-- Steps until a cycle is found or nothing is left; the answer comes with the last search state.
def run (adj : Adjacency) (s : Search) : Bool × Search :=
  match _h : s.step adj with
  | .found => (true, s)
  | .exhausted => (false, s)
  | .next t => run adj t
termination_by s.weight adj
decreasing_by exact weight_step _h

end Search

namespace Adjacency

def reachesCycle (adj : Adjacency) (start : String) : Bool := ((Search.enter adj start).run adj).1

-- Whether there is a cycle at all. Every id on a cycle is the target of a wire, so the search
-- starts only at such ids; each start has a search of its own.
def hasCycle (adj : Adjacency) : Bool :=
  (adj.ids.filter adj.targets.contains).any adj.reachesCycle

end Adjacency

end WireGraph
