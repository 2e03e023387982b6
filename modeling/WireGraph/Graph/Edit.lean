import WireGraph.Fault
import WireGraph.Graph.Basic

/-!
# Edits of the graph

Adding and removing components and wires. Each edit first checks whether it is admissible and then
takes effect; an edit that is not admissible gives the first fault in the order of the checks and
leaves the graph as it is.
-/

namespace WireGraph

abbrev Edited (α : Type) := Except Fault α × Graph

namespace Graph

def checkUnlocked (g : Graph) : Except Fault Unit :=
  if g.locked then .error .saveInProgress else .ok ()

-- A component may be added when its name is neither empty nor taken. An unregistered one will be
-- registered under its name, so that name may not be a live pid; and it needs a driver if its
-- factory does.
def checkPlace (g : Graph) (spec : NewComponent) : Except Fault Unit :=
  if g.locked then .error .saveInProgress
  else if spec.name = "" then .error .emptyName
  else if (g.named? spec.name).isSome then .error (.duplicateName spec.name)
  else if spec.pid = unregisteredPid ∧ (g.registeredAs? spec.name).isSome then
    .error (.duplicateName spec.name)
  else if spec.pid = unregisteredPid ∧ g.driverFactories.contains spec.factory
      ∧ spec.driver.getD "" = "" then
    .error (.missingDriver spec.factory)
  else .ok ()

-- Two components may be joined when they differ and exist, the first has an output and the second
-- an input, and no wire joins them in this direction.
def checkConnect (g : Graph) (producer consumer : String) : Except Fault Unit :=
  if g.locked then .error .saveInProgress
  else if producer = consumer then .error (.selfLoop producer)
  else match g.component? producer, g.component? consumer with
    | none, _ => .error (.endpoint (.absent producer))
    | some _, none => .error (.endpoint (.absent consumer))
    | some p, some c =>
      if !p.role.hasOutput then .error (.endpoint (.noOutput p.name))
      else if !c.role.hasInput then .error (.endpoint (.noInput c.name))
      else if (g.wireBetween? producer consumer).isSome then
        .error (.duplicateWire producer consumer)
      else .ok ()

def placed (g : Graph) (spec : NewComponent) : Graph :=
  let c := spec.withId g.nextId
  { g with
    components := g.components.insert c.id c
    pending := g.pending.noteCreation c
    events := g.events ++ [.componentAdded c.id]
    drawn := g.drawn + 1 }

def connected (g : Graph) (producer consumer : String) : Graph :=
  let w : Wire := { id := g.nextId, producer, consumer, fresh := true }
  { g with
    wires := g.wires.insert w.id w
    events := g.events ++ [.wireAdded w.id producer consumer]
    drawn := g.drawn + 1 }

-- Adds a component; the answer is its id.
def place (g : Graph) (spec : NewComponent) : Edited String :=
  match g.checkPlace spec with
  | .ok () => (.ok g.nextId, g.placed spec)
  | .error f => (.error f, g)

-- Adds a wire; the answer is its id.
def connect (g : Graph) (producer consumer : String) : Edited String :=
  match g.checkConnect producer consumer with
  | .ok () => (.ok g.nextId, g.connected producer consumer)
  | .error f => (.error f, g)

def withoutWire (g : Graph) (w : Wire) : Graph :=
  { g with
    wires := g.wires.erase w.id
    pending := g.pending.noteWireRemoval w
    events := g.events ++ [.wireRemoved w.id w.producer w.consumer] }

def withoutComponent (g : Graph) (id : String) (c : Component) : Graph :=
  { g with
    components := g.components.erase id
    pending := g.pending.noteRemoval c
    events := g.events ++ [.componentRemoved c.id c.pid] }

-- Removes the wires one after another. A record that was given another id by hand may not be found
-- under it; the removal stops there.
def dropWires (g : Graph) : List Wire → Edited Unit
  | [] => (.ok (), g)
  | w :: rest =>
    if g.wires.contains w.id then (g.withoutWire w).dropWires rest
    else (.error (.danglingId w.id), g)

def dropComponents (g : Graph) : List Component → Edited Unit
  | [] => (.ok (), g)
  | c :: rest =>
    if g.contains c.id then (g.withoutComponent c.id c).dropComponents rest
    else (.error (.danglingId c.id), g)

def attached (g : Graph) (id : String) : List Wire :=
  g.wires.values.filter fun w => w.producer == id || w.consumer == id

def remove (g : Graph) (id : String) : Edited Unit :=
  if g.locked then (.error .saveInProgress, g)
  else match g.component? id with
    | none => (.error (.notFound "component" id), g)
    | some c =>
      match g.dropWires (g.attached id) with
      | (.ok (), cut) => (.ok (), cut.withoutComponent id c)
      | stopped => stopped

def disconnect (g : Graph) (id : String) : Edited Unit :=
  if g.locked then (.error .saveInProgress, g)
  else match g.wire? id with
    | none => (.error (.notFound "wire" id), g)
    | some w => g.dropWires [w]

def clear (g : Graph) : Edited Unit :=
  if g.locked then (.error .saveInProgress, g)
  else match g.dropWires g.wires.values with
    | (.ok (), cut) => cut.dropComponents cut.components.values
    | stopped => stopped

def drain (g : Graph) : List Event × Graph := (g.events, { g with events := [] })

end Graph

inductive Edit where
  | place (spec : NewComponent)
  | connect (producer consumer : String)
  | remove (id : String)
  | disconnect (id : String)
  | clear
deriving DecidableEq, Repr

-- Makes the edit; the answer is the id of what was added, if anything was.
def Graph.apply (g : Graph) : Edit → Edited (Option String)
  | .place spec => (g.place spec).map (·.map some) id
  | .connect producer consumer => (g.connect producer consumer).map (·.map some) id
  | .remove i => (g.remove i).map (·.map fun _ => none) id
  | .disconnect i => (g.disconnect i).map (·.map fun _ => none) id
  | .clear => g.clear.map (·.map fun _ => none) id

end WireGraph
