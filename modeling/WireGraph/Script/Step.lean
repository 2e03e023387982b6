import WireGraph.Report
import WireGraph.Session

/-!
# Steps

The single steps of a script: questions, which change nothing, and everything that can be done to a
session or to its graph at one stroke. Each step gives an answer or a fault, and the session after
it.
-/

namespace WireGraph

inductive Question where
  | component (id : String)
  | wire (id : String)
  | contains (id : String)
  | successors (id : String)
  | predecessors (id : String)
  | adjacency
  | registeredAs (pid : String)
  | named (name : String)
  | wireBetween (producer consumer : String)
  | driverOf (name : String)
  | topology
  | hasCycle
  | findCycle
  | report
  | plan
  | digraph
  | snapshot
deriving DecidableEq, Repr

inductive Answer where
  | done
  | added (id : String)
  | truth (value : Bool)
  | text (value : String)
  | component (found : Option Component)
  | entry (found : Component)
  | wire (found : Option Wire)
  | driver (found : Option String)
  | ids (members : List String)
  | cycle (found : Option (List String))
  | adjacency (rows : Adjacency)
  | digraph (nodes : List String) (edges : List Edge)
  | report (value : Report)
  | events (happened : List Event)
  | deletions (taken : List Deletion)
  | topology (value : Topology)
  | snapshot (value : Snapshot)
  | transaction (sent : Transaction)
deriving DecidableEq, Repr

def Answer.ofId : Option String → Answer
  | none => .done
  | some id => .added id

-- What `found` is, or that nothing of this kind has the id.
def orNotFound {α : Type} (kind id : String) : Option α → Except Fault α
  | some a => .ok a
  | none => .error (.notFound kind id)

def Session.answer (s : Session) : Question → Except Fault Answer
  | .component id => .entry <$> orNotFound "component" id (s.graph.component? id)
  | .wire id => (.wire ∘ some) <$> orNotFound "wire" id (s.graph.wire? id)
  | .contains id => .ok (.truth (s.graph.contains id))
  | .successors id => .ok (.ids (s.graph.successors id))
  | .predecessors id => .ok (.ids (s.graph.predecessors id))
  | .adjacency =>
    match s.graph.danglingProducer? with
    | some id => .error (.danglingId id)
    | none => .ok (.adjacency s.graph.adjacency)
  | .registeredAs pid => .ok (.component (s.statusOf? pid))
  | .named name => .ok (.component (s.graph.named? name))
  | .wireBetween producer consumer => .ok (.wire (s.graph.wireBetween? producer consumer))
  | .driverOf name => .ok (.driver (s.graph.driverOf? name))
  | .topology => .ok (.topology s.graph.topology)
  | .hasCycle => .truth <$> s.graph.hasCycle
  | .findCycle => .ok (.cycle s.graph.findCycle)
  | .report => .report <$> s.graph.report
  | .plan => .text <$> s.graph.plan
  | .digraph => .ok (.digraph s.graph.nodes s.graph.digraph.edges)
  | .snapshot => .ok (.snapshot s.snapshot)

inductive PendingChange where
  | noteCreation (c : Component)
  | noteRemoval (c : Component)
  | noteWireRemoval (w : Wire)
  | takeDeletions
  | clearCreations
  | reset
deriving DecidableEq, Repr

-- Makes the change; only taken deletions are an answer of their own.
def Pending.apply (p : Pending) : PendingChange → Answer × Pending
  | .noteCreation c => (.done, p.noteCreation c)
  | .noteRemoval c => (.done, p.noteRemoval c)
  | .noteWireRemoval w => (.done, p.noteWireRemoval w)
  | .takeDeletions => (.deletions p.takeDeletions.1, p.takeDeletions.2)
  | .clearCreations => (.done, p.clearCreations)
  | .reset => (.done, p.reset)

inductive Step where
  -- An edit of the graph that the session does not hear of.
  | edit (e : Edit)
  | ask (q : Question)
  | drain
  | commit
  | changeComponent (id : String) (changes : List ComponentChange)
  | changeWire (id : String) (changes : List WireChange)
  | track (change : PendingChange)
  | reload (driverFactories : List String)
  | editSession (e : Edit)
  -- A new component, as far as the order could be read.
  | create (order : Except Fault Order)
  | close
  | fail (fault : Fault)
  | rest
deriving Repr

namespace Session

def withEdited (s : Session) {α : Type} (answer : α → Answer) (edited : Edited α) :
    Except Fault Answer × Session :=
  (answer <$> edited.1, { s with graph := edited.2 })

def step (s : Session) : Step → Except Fault Answer × Session
  | .edit e => s.withEdited .ofId (s.graph.apply e)
  | .ask q => (s.answer q, s)
  | .drain => (.ok (.events s.graph.drain.1), { s with graph := s.graph.drain.2 })
  | .commit => (.ok .done, { s with graph := s.graph.commit })
  | .changeComponent id changes =>
    s.withEdited (fun _ => .done) (s.graph.amendComponent id changes)
  | .changeWire id changes => s.withEdited (fun _ => .done) (s.graph.amendWire id changes)
  | .track change =>
    let (answer, pending) := s.graph.pending.apply change
    (.ok answer, { s with graph := { s.graph with pending } })
  | .reload driverFactories => (.ok .done, s.reload driverFactories)
  | .editSession e => (.ofId <$> (s.edit e).1, (s.edit e).2)
  | .create order =>
    match s.checkOpen with
    | .error f => (.error f, s)
    | .ok () =>
      match order with
      | .error f => (.error f, s)
      | .ok o => (.ofId <$> (s.create o).1, (s.create o).2)
  | .close => (.ok .done, s.close)
  | .fail fault => (.error fault, s)
  | .rest => (.ok .done, s)

end Session

end WireGraph
