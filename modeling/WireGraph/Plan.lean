import WireGraph.Cycle.Trail

/-!
# Plans

A plan lists the components so that every wire leads from an earlier entry to a later one. It is
made generation by generation: first the nodes that no wire leads to, then each node as soon as the
last wire to it comes from an entry that is already listed. A graph with a cycle has no plan.
-/

namespace WireGraph

-- The nodes that are not listed yet, each with the number of wires that still hold it back.
abbrev Waiting := List (String × Nat)

namespace Waiting

-- Lets go one wire to `id`; the answer says whether it was the last one.
def release (id : String) : Waiting → Bool × Waiting
  | [] => (false, [])
  | (key, count) :: rest =>
    if key = id then
      if count ≤ 1 then (true, rest) else (false, (key, count - 1) :: rest)
    else ((release id rest).1, (key, count) :: (release id rest).2)

-- Lets go one wire to each of the ids in turn; the answer lists the nodes that came free.
def releaseAll (w : Waiting) : List String → List String × Waiting
  | [] => ([], w)
  | id :: rest =>
    let (free, left) := release id w
    let (more, last) := releaseAll left rest
    (if free then id :: more else more, last)

theorem length_release (id : String) (w : Waiting) :
    (release id w).2.length + (if (release id w).1 then 1 else 0) = w.length := by
  induction w with
  | nil => simp [release]
  | cons e rest ih =>
    obtain ⟨key, count⟩ := e
    unfold release
    split
    · split <;> simp
    · simp only [List.length_cons]
      omega

theorem length_releaseAll (w : Waiting) (ids : List String) :
    (w.releaseAll ids).1.length + (w.releaseAll ids).2.length = w.length := by
  induction ids generalizing w with
  | nil => simp [releaseAll]
  | cons id rest ih =>
    have one := length_release id w
    have more := ih (release id w).2
    cases free : (release id w).1 <;> simp [releaseAll, free] at one ⊢ <;> omega

end Waiting

namespace Adjacency

def inDegree (adj : Adjacency) (id : String) : Nat := (adj.edges.filter (·.2 == id)).length

def successorsOf (adj : Adjacency) (ids : List String) : List String := ids.flatMap adj.row

-- The nodes listed from the generation `ready` on, and those that never come free.
def generations (adj : Adjacency) (waiting : Waiting) (ready : List String) :
    List String × Waiting :=
  if _h : ready = [] then ([], waiting)
  else
    let step := waiting.releaseAll (adj.successorsOf ready)
    let later := generations adj step.2 step.1
    (ready ++ later.1, later.2)
termination_by waiting.length + ready.length
decreasing_by
  have := Waiting.length_releaseAll waiting (adj.successorsOf ready)
  have : 0 < ready.length := List.length_pos_iff.2 _h
  omega

-- The nodes in an order in which every edge leads forward; none if there is a cycle.
def order? (adj : Adjacency) : Option (List String) :=
  let degrees := adj.ids.map fun id => (id, adj.inDegree id)
  let (listed, left) := adj.generations (degrees.filter (·.2 != 0))
    ((degrees.filter (·.2 == 0)).map (·.1))
  if left = [] then some listed else none

end Adjacency

namespace Graph

def recordWithId? (g : Graph) (id : String) : Option Component :=
  (g.components.values.filter (·.id == id)).getLast?

-- The record with this id; a wire may name an id that no record has.
def recordWithId (g : Graph) (id : String) : Except Fault Component :=
  match g.recordWithId? id with
  | some c => .ok c
  | none => .error (.danglingId id)

end Graph

namespace Plan

def heading : String := "# ASCII Plan (topological order)"

def cycleNotice : String := "# ASCII Plan unavailable: the wire graph contains a cycle."

def number (n : Nat) : String := if n < 10 then "0" ++ toString n else toString n

-- The line of the `n`-th entry: number, name, factory, role, and the pid or that there is none.
def entryLine (n : Nat) (c : Component) : String :=
  number n ++ ". " ++ c.name ++ " [" ++ c.factory ++ "] (" ++ c.role.word ++ ", "
    ++ (if c.registered then c.pid else "unregistered") ++ ")"

def arrowLine (c : Component) : String := "    └─▶ " ++ c.name

-- Components by name, in the order of code points; equal names keep their order.
def byName (components : List Component) : List Component :=
  components.mergeSort fun a b => !decide (b.name < a.name)

end Plan

-- The lines of one entry: the component and under it, by name, those that its edges lead to.
def Graph.planEntry (g : Graph) (edges : Adjacency) (n : Nat) (id : String) :
    Except Fault (List String) := do
  let c ← g.recordWithId id
  let targets ← (edges.row id).mapM g.recordWithId
  return Plan.entryLine n c :: (Plan.byName targets).map Plan.arrowLine

def Graph.plan (g : Graph) : Except Fault String :=
  let edges := g.digraph
  match edges.order? with
  | none => .ok Plan.cycleNotice
  | some order => do
    let entries ← (order.zipIdx 1).mapM fun e => g.planEntry edges e.2 e.1
    return "\n".intercalate (Plan.heading :: entries.flatten)

end WireGraph
