import WireGraph.Pending
import WireGraph.Table

/-!
# The wire graph

The graph of one editing session: its components and wires, the events that have not been collected,
the changes that no registry has heard of, the lock that a save holds, and the supply that its ids
are drawn from. This module has the graph and the questions that can be asked of it; nothing here
changes it.
-/

namespace WireGraph

inductive Event where
  | componentAdded (id : String)
  | componentRemoved (id pid : String)
  | wireAdded (id producer consumer : String)
  | wireRemoved (id producer consumer : String)
deriving DecidableEq, Repr

abbrev Adjacency := List (String × List String)

structure Graph where
  components : Table Component := .empty
  wires : Table Wire := .empty
  events : List Event := []
  pending : Pending := {}
  locked : Bool := false
  driverFactories : List String := []
  supply : List String := []
  drawn : Nat := 0
deriving DecidableEq, Repr, Inhabited

-- The id that is drawn `n`-th when the supply has run out.
def numberedId (n : Nat) : String := "id-" ++ toString n

theorem numberedId_inj {m n : Nat} : numberedId m = numberedId n ↔ m = n := by
  refine ⟨fun same => ?_,fun same => same ▸ rfl⟩
  have digits : m.repr = n.repr := (String.append_right_inj _).mp same
  have read := congrArg (fun text => Nat.ofDigitChars 10 text.toList 0) digits
  simpa [Nat.toList_repr,Nat.ofDigitChars_ten_toDigits] using read

-- The distinct members of a list, each at the place where it first came.
def distinct (items : List String) : List String :=
  items.foldl (fun seen x => if seen.contains x then seen else seen ++ [x]) []

theorem mem_distinct {items : List String} {x : String} : x ∈ distinct items ↔ x ∈ items := by
  have collect : ∀ seen : List String,
      x ∈ items.foldl (fun seen x => if seen.contains x then seen else seen ++ [x]) seen ↔
        x ∈ seen ∨ x ∈ items := by
    induction items with
    | nil => simp
    | cons head rest ih =>
      intro seen
      rw [List.foldl_cons,ih]
      by_cases known : head ∈ seen
      · rw [if_pos (by simpa using known),List.mem_cons]
        constructor
        · rintro (old | later)
          · exact .inl old
          · exact .inr (.inr later)
        · rintro (old | rfl | later)
          · exact .inl old
          · exact .inl known
          · exact .inr later
      · rw [if_neg (by simpa using known),List.mem_append,List.mem_singleton,List.mem_cons]
        exact or_assoc
  simpa [distinct] using collect []

namespace Graph

-- The id that is drawn `n`-th: those of the supply come first, in its order.
def drawnId (g : Graph) (n : Nat) : String := g.supply[n - 1]?.getD (numberedId n)

def nextId (g : Graph) : String := g.drawnId (g.drawn + 1)

def contains (g : Graph) (id : String) : Bool := g.components.contains id

def component? (g : Graph) (id : String) : Option Component := g.components.get? id

def wire? (g : Graph) (id : String) : Option Wire := g.wires.get? id

def named? (g : Graph) (name : String) : Option Component :=
  g.components.values.find? (·.name == name)

-- The first component registered under `pid`; no component is registered under the pid that stands
-- for none.
def registeredAs? (g : Graph) (pid : String) : Option Component :=
  if pid = unregisteredPid then none else g.components.values.find? (·.pid == pid)

def driverOf? (g : Graph) (name : String) : Option String := (g.named? name).bind (·.driver)

def wireBetween? (g : Graph) (producer consumer : String) : Option Wire :=
  g.wires.values.find? fun w => w.producer == producer && w.consumer == consumer

def successors (g : Graph) (id : String) : List String :=
  distinct ((g.wires.values.filter (·.producer == id)).map (·.consumer))

def predecessors (g : Graph) (id : String) : List String :=
  distinct ((g.wires.values.filter (·.consumer == id)).map (·.producer))

-- The first wire whose producer is no component, as an edit of a live wire may leave it.
def danglingProducer? (g : Graph) : Option String :=
  (g.wires.values.find? fun w => !g.contains w.producer).map (·.producer)

def adjacency (g : Graph) : Adjacency := g.components.keys.map fun id => (id, g.successors id)

def topology (g : Graph) : Topology := ⟨g.components.values, g.wires.values⟩

end Graph

end WireGraph
