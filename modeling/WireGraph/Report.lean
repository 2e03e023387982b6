import WireGraph.Plan

/-!
# Reports

Five checks of a whole graph: names are unique, wires join components that exist, their ends have
the ports they need, no wire loops back or repeats another, and there is no cycle. A check either
passes with one line, or gives a line for each complaint.
-/

namespace WireGraph

structure Report where
  ok : Bool
  messages : List String
deriving DecidableEq, Repr

structure Finding where
  pass : String
  complaints : List String
deriving DecidableEq, Repr

namespace Finding

def passes (f : Finding) : Bool := f.complaints.isEmpty

def lines (f : Finding) : List String :=
  if f.complaints = [] then ["OK: " ++ f.pass] else f.complaints.map ("ERR: " ++ ·)

end Finding

namespace Graph

-- The name of the component with this id; an id without one stands for itself.
def label (g : Graph) (id : String) : String := ((g.recordWithId? id).map (·.name)).getD id

def hasRecord (g : Graph) (id : String) : Bool := (g.recordWithId? id).isSome

def checkNames (g : Graph) : Finding where
  pass := "Component names are unique."
  complaints :=
    if (g.components.values.map (·.name)).Nodup then []
    else ["Duplicate component names detected."]

def checkEnds (g : Graph) : Finding where
  pass := "All wires reference existing components."
  complaints :=
    (g.wires.values.filter fun w => !(g.hasRecord w.producer && g.hasRecord w.consumer)).map
      fun w => "Wire " ++ w.producer ++ "->" ++ w.consumer ++ " references missing component(s)."

-- What is wrong with the ports at the ends of a wire; a wire without two ends is passed over.
def portComplaints (g : Graph) (w : Wire) : List String :=
  match g.recordWithId? w.producer, g.recordWithId? w.consumer with
  | some p, some c =>
    (if p.role.hasOutput then [] else ["Wire from " ++ p.name ++ " but it has no output port."])
      ++ (if c.role.hasInput then [] else ["Wire to " ++ c.name ++ " but it has no input port."])
  | _, _ => []

def checkPorts (g : Graph) : Finding where
  pass := "All wire endpoints correspond to exposed ports."
  complaints := g.wires.values.flatMap g.portComplaints

-- The wires that loop back, and those whose pair of ends came earlier; `seen` holds the pairs
-- before.
def pairComplaints (g : Graph) (seen : List Edge) : List Wire → List String
  | [] => []
  | w :: rest =>
    let pair := (w.producer, w.consumer)
    let here :=
      if w.producer = w.consumer then
        ["Wire " ++ w.id ++ " loops " ++ g.label w.producer ++ " back to itself."]
      else if seen.contains pair then
        ["Duplicate wire " ++ g.label w.producer ++ "->" ++ g.label w.consumer ++ "."]
      else []
    here ++ g.pairComplaints (pair :: seen) rest

-- No wire loops back to its producer, and no two wires join the same pair.
def checkPairs (g : Graph) : Finding where
  pass := "No self-loops or duplicate wires."
  complaints := g.pairComplaints [] g.wires.values

def cycleComplaint (g : Graph) : String :=
  let names := ((g.findCycle.getD []).filterMap g.recordWithId?).map (·.name)
  let along := " -> ".intercalate names
  if along = "" then "Cycle detected in the graph." else "Cycle detected in the graph: " ++ along

def checkAcyclic (g : Graph) (cyclic : Bool) : Finding where
  pass := "Graph is acyclic."
  complaints := if cyclic then [g.cycleComplaint] else []

def staticChecks (g : Graph) : List Finding := [g.checkNames, g.checkEnds, g.checkPorts, g.checkPairs]

def report (g : Graph) : Except Fault Report :=
  match g.hasCycle with
  | .error f => .error f
  | .ok cyclic =>
    let findings := g.staticChecks ++ [g.checkAcyclic cyclic]
    .ok ⟨findings.all (·.passes), findings.flatMap (·.lines)⟩

end Graph

end WireGraph
