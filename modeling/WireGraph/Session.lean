import WireGraph.Cycle.Trail
import WireGraph.Graph.Store

/-!
# Editing sessions

A session is one editor's hold on a graph. It starts from what a registry reports: the stored graph,
and a new component for each registration that the graph lacks. Its edits go through the graph and
mark the session dirty when they changed something. A save locks the graph while the registry looks
at the transaction; what the registry takes is settled, and what it refuses stays pending, so that
the same save can be tried again. A closed session takes no edit and no save.
-/

namespace WireGraph

namespace Graph

-- Adds the component of a registration, unless a component has its pid already or its label cannot
-- be used as a name.
def reconcile (g : Graph) (r : Registration) : Except Fault Graph :=
  if (g.registeredAs? r.pid).isSome then .ok g
  else match g.place r.request with
    | (.ok _, grown) => .ok grown
    | (.error f, _) => if f.isName then .ok g else .error f

-- A save needs a graph that no save holds and that has no cycle.
def checkSave (g : Graph) : Except Fault Unit :=
  if g.locked then .error .saveInProgress
  else match g.hasCycle with
    | .error f => .error f
    | .ok true => .error (.cyclic (g.findCycle.getD []))
    | .ok false => .ok ()

def transaction (g : Graph) : Transaction := ⟨g.topology, g.pending.deletions⟩

def hold (g : Graph) : Graph := { g with locked := true }

def release (g : Graph) : Graph := { g with locked := false }

end Graph

-- A graph under edit with the snapshot it came from. `replaced` counts how often another graph took
-- the place of the one it started with.
structure Session where
  graph : Graph := {}
  snapshot : Snapshot := {}
  dirty : Bool := false
  closed : Bool := false
  replaced : Nat := 0
deriving DecidableEq, Repr, Inhabited

structure Order where
  factory : String
  name : String
  driver : Option String := none
deriving DecidableEq, Repr

namespace Session

-- The session that a snapshot opens, with the ids that it will draw. Reconciling is no edit, so
-- nothing of it is left to be collected.
def start (snapshot : Snapshot) (settings : Settings) (supply : List String := []) :
    Except Fault Session := do
  let stored := Graph.restore snapshot.graph settings.driverFactories 0 supply
  let graph ← snapshot.components.foldlM Graph.reconcile stored
  return { graph := graph.drain.2, snapshot }

def checkOpen (s : Session) : Except Fault Unit :=
  if s.closed then .error .sessionClosed else .ok ()

-- Collects the events; the session is dirty if there were any.
def touch (s : Session) : Session :=
  { s with graph := s.graph.drain.2, dirty := s.dirty || !s.graph.events.isEmpty }

-- Makes an edit; the answer is the id of what was added, if anything was.
def edit (s : Session) (e : Edit) : Except Fault (Option String) × Session :=
  match s.checkOpen with
  | .error f => (.error f, s)
  | .ok () =>
    match s.graph.apply e with
    | (.ok id, graph) => (.ok id, { s with graph }.touch)
    | (.error f, graph) => (.error f, { s with graph })

-- The component that an order asks for; its role follows from the factories that the snapshot
-- lists.
def request (s : Session) (o : Order) : NewComponent :=
  { name := o.name
    factory := o.factory
    role := Role.ofFactory o.factory s.snapshot.producerFactories s.snapshot.consumerFactories
    driver := o.driver }

def create (s : Session) (o : Order) : Except Fault (Option String) × Session :=
  s.edit (.place (s.request o))

def close (s : Session) : Session :=
  { s with
    graph := { s.graph with pending := s.graph.pending.reset }.drain.2
    closed := true }

def statusOf? (s : Session) (pid : String) : Option Component := s.graph.registeredAs? pid

-- Another graph takes the place of this one: the same components and wires as they would be
-- restored, with other driver factories.
def reload (s : Session) (driverFactories : List String) : Session :=
  { s with
    graph := Graph.restore s.graph.topology driverFactories s.graph.drawn s.graph.supply
    replaced := s.replaced + 1 }

-- Takes the lock for a save; the answer is the transaction to send.
def beginSave (s : Session) : Except Fault (Transaction × Session) :=
  match s.graph.checkSave with
  | .error f => .error f
  | .ok () => .ok (s.graph.transaction, { s with graph := s.graph.hold })

def sameGraph (earlier s : Session) : Bool := earlier.replaced == s.replaced

-- Gives back the lock that was taken in `earlier`. A graph that took its place since then was never
-- locked by it.
def giveBack (earlier s : Session) : Session :=
  if earlier.sameGraph s then { s with graph := s.graph.release } else s

-- Ends a save that began in `earlier`: what the registry accepted is settled, and the lock is given
-- back in any case.
def endSave (earlier : Session) (accepted : Bool) (s : Session) : Session :=
  let settled :=
    if accepted && earlier.sameGraph s then { s with graph := s.graph.settle } else s
  earlier.giveBack settled

def clean (s : Session) : Session := { s with dirty := false }

end Session

end WireGraph
