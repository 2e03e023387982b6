import WireGraph.Cycle.Search
import WireGraph.Fault

/-!
# A cycle, edge by edge

The wires of a graph without repetition, as a directed graph, and the first cycle met when its edges
are walked depth first from every node in turn. The walk visits each edge once, goes down at once,
and comes back to the successors that are left. A trail follows the walk: it is the part of it that
leads from the start to the edge at hand.
-/

namespace WireGraph

abbrev Edge := String × String

namespace Graph

-- The nodes: the components in order, and then the ends of wires that are not among them.
def nodes (g : Graph) : List String :=
  distinct (g.components.values.map (·.id)
    ++ g.wires.values.flatMap fun w => [w.producer, w.consumer])

-- Every node with its successors, in the order in which wires first join them.
def digraph (g : Graph) : Adjacency := g.nodes.map fun id => (id, g.successors id)

end Graph

namespace Adjacency

def edges (adj : Adjacency) : List Edge := adj.flatMap fun r => r.2.map fun succ => (r.1, succ)

def size (adj : Adjacency) : Nat := (adj.map fun r => r.2.length).foldr (· + ·) 0

def take? (id : String) : Adjacency → Option (String × Adjacency)
  | [] => none
  | (key, ids) :: rest =>
    if key = id then
      match ids with
      | [] => none
      | succ :: left => some (succ, (key, left) :: rest)
    else (take? id rest).map fun t => (t.1, (key, ids) :: t.2)

theorem size_take? {id succ : String} {adj left : Adjacency} (h : take? id adj = some (succ, left)) :
    left.size + 1 = adj.size := by
  induction adj generalizing left with
  | nil => simp [take?] at h
  | cons r adj ih =>
    obtain ⟨key, ids⟩ := r
    unfold take? at h
    split at h
    · cases ids with
      | nil => simp at h
      | cons s ids =>
        simp only [Option.some.injEq, Prod.mk.injEq] at h
        obtain ⟨rfl, rfl⟩ := h
        simp [size]; omega
    · cases rest : take? id adj with
      | none => simp [rest] at h
      | some t =>
        obtain ⟨s, t⟩ := t
        simp only [rest, Option.map_some, Option.some.injEq, Prod.mk.injEq] at h
        obtain ⟨rfl, rfl⟩ := h
        have := ih rest
        simp only [size, List.map_cons, List.foldr_cons] at this ⊢
        omega

-- The edges in the order of a depth-first walk; `stack` is the way back, the node at hand first.
def walk (adj : Adjacency) : (stack : List String) → List Edge
  | [] => []
  | id :: below =>
    match _h : take? id adj with
    | none => walk adj below
    | some (succ, left) => (id, succ) :: walk left (succ :: id :: below)
termination_by stack => 2 * adj.size + stack.length
decreasing_by
  · simp
  · have := size_take? _h
    simp; omega

end Adjacency

-- The edges from the start to the node at hand, the last one first, and what has been met.
structure Trail where
  edges : List Edge := []
  active : List String
  seen : List String
  head : Option String := none
deriving DecidableEq, Repr

namespace Trail

def begin (start : String) : Trail := { active := [start], seen := [start] }

-- Takes edges back until the last one ends at `tail`, or none is left.
def retreat (tail : String) : List Edge → List String → List Edge × List String
  | [], _ => ([], [tail])
  | (_, head) :: rest, active =>
    match rest with
    | [] => ([], [tail])
    | last :: _ =>
      if tail = last.2 then (rest, active.filter (· != head))
      else retreat tail rest (active.filter (· != head))

-- The trail brought back to `tail` when the walk did not go on from its last head.
def broughtTo (t : Trail) (tail : String) : Trail :=
  match t.head with
  | none => t
  | some head =>
    if tail = head then t
    else
      let (edges, active) := retreat tail t.edges t.active
      { t with edges, active }

-- Follows the walk. An edge to an explored node is passed over. An edge to an active node closes a
-- cycle, which is the trail from the first edge that starts at that node. Without a cycle the
-- answer is the set of nodes seen.
def follow (explored : List String) (t : Trail) : List Edge → List String ⊕ List Edge
  | [] => .inl t.seen
  | (tail, head) :: rest =>
    if explored.contains head then follow explored t rest
    else
      let back := t.broughtTo tail
      let edges := (tail, head) :: back.edges
      if back.active.contains head then .inr (edges.reverse.dropWhile (·.1 != head))
      else
        follow explored
          { edges, active := head :: back.active, seen := head :: back.seen, head := some head } rest

end Trail

namespace Adjacency

-- The edges of the first cycle met from the given starts; what earlier starts saw is explored.
def cycleFrom (adj : Adjacency) (explored : List String) : List String → Option (List Edge)
  | [] => none
  | start :: rest =>
    if explored.contains start then cycleFrom adj explored rest
    else
      match (Trail.begin start).follow explored (adj.walk [start]) with
      | .inl seen => cycleFrom adj (seen ++ explored) rest
      | .inr cycle => some cycle

-- The edges of a cycle, each starting where the one before it ends; none if there is no cycle.
def cycle? (adj : Adjacency) : Option (List Edge) := adj.cycleFrom [] adj.ids

end Adjacency

-- The ids along a cycle, the first of them once more at the end.
def Graph.findCycle (g : Graph) : Option (List String) :=
  g.digraph.cycle?.map fun edges => edges.map (·.1) ++ (edges.map (·.1)).take 1

-- Whether the wires form a cycle. A wire whose producer is no component stops the question.
def Graph.hasCycle (g : Graph) : Except Fault Bool :=
  match g.danglingProducer? with
  | some id => .error (.danglingId id)
  | none => .ok g.adjacency.hasCycle

end WireGraph
