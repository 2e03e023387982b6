import WireGraph.Role

/-!
# Records

The records that a registry, a document and an editing session exchange: components and wires, the
deletions a registry has to replay, the topology and transaction of a save, and the snapshot and
settings that a session starts from.
-/

namespace WireGraph

def unregisteredPid : String := "none"

-- What is asked for when a component is added; its id is drawn when it is.
structure NewComponent where
  name : String
  factory : String
  role : Role
  driver : Option String := none
  pid : String := unregisteredPid
deriving DecidableEq, Repr, Inhabited

structure Component where
  id : String
  pid : String := unregisteredPid
  factory : String
  name : String
  role : Role
  driver : Option String := none
deriving DecidableEq, Repr, Inhabited

def Component.registered (c : Component) : Bool := c.pid != unregisteredPid

theorem Component.registered_iff {c : Component} :
    c.registered = true ↔ c.pid ≠ unregisteredPid := bne_iff_ne

theorem Component.unregistered_iff {c : Component} :
    c.registered = false ↔ c.pid = unregisteredPid := bne_eq_false_iff_eq

def NewComponent.withId (spec : NewComponent) (id : String) : Component :=
  { id, pid := spec.pid, factory := spec.factory, name := spec.name, role := spec.role
    driver := spec.driver }

-- A directed edge between two components, named by their ids; `fresh` until a save commits it.
structure Wire where
  id : String
  producer : String
  consumer : String
  fresh : Bool := true
deriving DecidableEq, Repr, Inhabited

structure DeletedWire where
  producer : String
  consumer : String
deriving DecidableEq, Repr, Inhabited

structure DeletedInstance where
  pid : String
deriving DecidableEq, Repr, Inhabited

inductive Deletion where
  | wire (record : DeletedWire)
  | component (record : DeletedInstance)
deriving DecidableEq, Repr, Inhabited

-- A stored graph: components and wires in order, ids and flags as they were.
structure Topology where
  components : List Component := []
  wires : List Wire := []
deriving DecidableEq, Repr, Inhabited

structure Transaction where
  topology : Topology
  deletions : List Deletion := []
deriving DecidableEq, Repr, Inhabited

-- A component as a registry lists it; an empty name stands for its pid.
structure Registration where
  pid : String
  factory : String
  name : String := ""
  role : Role
  driver : Option String := none
deriving DecidableEq, Repr, Inhabited

def Registration.label (r : Registration) : String := if r.name = "" then r.pid else r.name

def Registration.request (r : Registration) : NewComponent :=
  { name := r.label, factory := r.factory, role := r.role, driver := r.driver, pid := r.pid }

structure Snapshot where
  graph : Topology := {}
  components : List Registration := []
  producerFactories : List String := []
  consumerFactories : List String := []
  drivers : List String := []
deriving DecidableEq, Repr, Inhabited

-- The factory whose instances need a driver unless the settings say otherwise.
def assetFactory : String := "org.eclipse.kura.wire.WireAsset"

structure Settings where
  driverFactories : List String := [assetFactory]
  logLevel : String := "INFO"
deriving DecidableEq, Repr, Inhabited

end WireGraph
