import WireGraph.Graph.Edit

/-!
# Storing and restoring a graph

A graph is restored from a topology with ids, pids and flags as stored. A repeated id keeps its
first place and takes its last record; a wire whose ends are not both components is stale and left
out. A registry that accepts a save commits the graph: every component is then registered, under its
name if it had no pid, and no wire is fresh.
-/

namespace WireGraph

-- A component as the registry knows it after a save: under its name if it had no pid.
def Component.committed (c : Component) : Component :=
  if c.registered then c else { c with pid := c.name }

theorem Component.committed_name (c : Component) : c.committed.name = c.name := by
  unfold Component.committed
  split <;> rfl

theorem Component.committed_id (c : Component) : c.committed.id = c.id := by
  unfold Component.committed
  split <;> rfl

theorem Component.committed_registered {c : Component} (registered : c.registered = true) :
    c.committed = c := if_pos registered

theorem Component.committed_pid {c : Component} (unregistered : c.registered = false) :
    c.committed.pid = c.name := by
  unfold Component.committed
  rw [if_neg (by simp [unregistered])]

-- A component that is called like the pid that stands for none stays unregistered for ever.
theorem Component.committed_twice (c : Component) : c.committed.committed.pid = c.committed.pid := by
  cases registered : c.committed.registered with
  | true => rw [Component.committed_registered registered]
  | false =>
    rw [Component.committed_pid registered,Component.committed_name]
    cases before : c.registered with
    | true => rw [Component.committed_registered before,before] at registered; cases registered
    | false => exact (Component.committed_pid before).symm

def Wire.committed (w : Wire) : Wire := { w with fresh := false }

namespace Graph

def restoredComponents (t : Topology) : Table Component := Table.ofList (·.id) t.components

-- The wires of a topology whose ends are both in `components`, each id once.
def restoredWires (components : Table Component) (wires : List Wire) : Table Wire :=
  Table.ofList (·.id) (wires.filter fun w =>
    components.contains w.producer && components.contains w.consumer)

-- The graph stored in `t`; nothing is pending in it and `drawn` ids of the supply are taken.
def restore (t : Topology) (driverFactories : List String) (drawn : Nat)
    (supply : List String := []) : Graph :=
  { components := restoredComponents t
    wires := restoredWires (restoredComponents t) t.wires
    driverFactories
    supply
    drawn }

def commit (g : Graph) : Graph :=
  { g with
    components := g.components.mapValues (·.committed)
    wires := g.wires.mapValues (·.committed) }

-- The graph after a registry took the transaction: nothing is pending and all is committed.
def settle (g : Graph) : Graph := ({ g with pending := g.pending.settle } : Graph).commit

end Graph

-- A hand-made change of one field of a live component, or of a field that cannot be changed so.
inductive ComponentChange where
  | id (value : String)
  | pid (value : String)
  | factory (value : String)
  | name (value : String)
  | role (value : Role)
  | driver (value : Option String)
  | refused (fault : Fault)
deriving DecidableEq, Repr

-- A hand-made change of one field of a live wire, or of a field that cannot be changed so.
inductive WireChange where
  | id (value : String)
  | producer (value : String)
  | consumer (value : String)
  | fresh (value : Bool)
  | refused (fault : Fault)
deriving DecidableEq, Repr

def ComponentChange.ofRole : Except Fault Role → ComponentChange
  | .ok r => .role r
  | .error f => .refused f

-- The component after one change; nothing about the new value is checked.
def Component.change (c : Component) : ComponentChange → Except Fault Component
  | .id value => .ok { c with id := value }
  | .pid value => .ok { c with pid := value }
  | .factory value => .ok { c with factory := value }
  | .name value => .ok { c with name := value }
  | .role value => .ok { c with role := value }
  | .driver value => .ok { c with driver := value }
  | .refused fault => .error fault

-- The wire after one change; nothing about the new value is checked.
def Wire.change (w : Wire) : WireChange → Except Fault Wire
  | .id value => .ok { w with id := value }
  | .producer value => .ok { w with producer := value }
  | .consumer value => .ok { w with consumer := value }
  | .fresh value => .ok { w with fresh := value }
  | .refused fault => .error fault

-- Makes the changes in order up to the first that is refused.
def changeAll {α χ : Type} (change : α → χ → Except Fault α) (a : α) :
    List χ → Except Fault Unit × α
  | [] => (.ok (), a)
  | x :: rest =>
    match change a x with
    | .ok changed => changeAll change changed rest
    | .error f => (.error f, a)

namespace Graph

def amendComponent (g : Graph) (id : String) (changes : List ComponentChange) : Edited Unit :=
  match g.component? id with
  | none => (.error (.notFound "component" id), g)
  | some c =>
    let (outcome, changed) := changeAll Component.change c changes
    (outcome, { g with components := g.components.insert id changed })

def amendWire (g : Graph) (id : String) (changes : List WireChange) : Edited Unit :=
  match g.wire? id with
  | none => (.error (.notFound "wire" id), g)
  | some w =>
    let (outcome, changed) := changeAll Wire.change w changes
    (outcome, { g with wires := g.wires.insert id changed })

end Graph

end WireGraph
