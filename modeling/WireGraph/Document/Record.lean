import WireGraph.Document.Check
import WireGraph.Document.Inline
import WireGraph.Record

/-!
# Records as values

How each record is written as a mapping, and which values are read as it. Every declared field is
written; absent fields are read as their defaults, and fields that are not declared are ignored.
-/

namespace WireGraph.Document

-- A kind of record: the values that are read as it, and the value it is written as.
class Record (α : Type) where
  shape : Shape
  check : Value → Check α
  toValue : α → Value

export Record (toValue)

def roleValue (r : Role) : Value := .text r.word

namespace NewComponent

def check (e : Entries) : Check NewComponent :=
  (fun name factory role driver pid => { name, factory, role, driver, pid })
    <$> required "name" text e
    <*> required "factory_pid" text e
    <*> required "role" role e
    <*> optional "driver_ref" none textOrNull e
    <*> optional "pid" unregisteredPid text e

def toValue (c : NewComponent) : Value :=
  .record [("name", .text c.name), ("factory_pid", .text c.factory), ("role", roleValue c.role),
    ("driver_ref", .optional c.driver), ("pid", .text c.pid)]

end NewComponent

instance : Record NewComponent where
  shape := .newComponent
  check := recordOf .newComponent NewComponent.check
  toValue := NewComponent.toValue

namespace Component

def check (e : Entries) : Check Component :=
  (fun id pid factory name role driver => { id, pid, factory, name, role, driver })
    <$> required "id" text e
    <*> optional "pid" unregisteredPid text e
    <*> required "factory_pid" text e
    <*> required "name" text e
    <*> required "role" role e
    <*> optional "driver_ref" none textOrNull e

def toValue (c : Component) : Value :=
  .record [("id", .text c.id), ("pid", .text c.pid), ("factory_pid", .text c.factory),
    ("name", .text c.name), ("role", roleValue c.role), ("driver_ref", .optional c.driver)]

end Component

instance : Record Component where
  shape := .component
  check := recordOf .component Component.check
  toValue := Component.toValue

namespace Wire

def check (e : Entries) : Check Wire :=
  (fun id producer consumer fresh => { id, producer, consumer, fresh })
    <$> required "id" text e
    <*> required "producer" text e
    <*> required "consumer" text e
    <*> optional "is_new" true flag e

def toValue (w : Wire) : Value :=
  .record [("id", .text w.id), ("producer", .text w.producer), ("consumer", .text w.consumer),
    ("is_new", .flag w.fresh)]

end Wire

instance : Record Wire where
  shape := .wire
  check := recordOf .wire Wire.check
  toValue := Wire.toValue

def wireKind : String := "wire"

def instanceKind : String := "instance"

namespace DeletedWire

def check (e : Entries) : Check DeletedWire :=
  (fun _ producer consumer => { producer, consumer })
    <$> optional "kind" () (literal wireKind) e
    <*> required "producer" text e
    <*> required "consumer" text e

def toValue (d : DeletedWire) : Value :=
  .record [("kind", .text wireKind), ("producer", .text d.producer), ("consumer", .text d.consumer)]

end DeletedWire

instance : Record DeletedWire where
  shape := .deletedWire
  check := recordOf .deletedWire DeletedWire.check
  toValue := DeletedWire.toValue

namespace DeletedInstance

def check (e : Entries) : Check DeletedInstance :=
  (fun _ pid => { pid })
    <$> optional "kind" () (literal instanceKind) e
    <*> required "pid" text e

def toValue (d : DeletedInstance) : Value :=
  .record [("kind", .text instanceKind), ("pid", .text d.pid)]

end DeletedInstance

instance : Record DeletedInstance where
  shape := .deletedInstance
  check := recordOf .deletedInstance DeletedInstance.check
  toValue := DeletedInstance.toValue

namespace Deletion

def ofKind (kind : String) (entries : Entries) : Check Deletion :=
  if kind = wireKind then (Deletion.wire <$> DeletedWire.check entries).under (.field wireKind)
  else if kind = instanceKind then
    (Deletion.component <$> DeletedInstance.check entries).under (.field instanceKind)
  else .fail (.unknownKind kind)

-- A deletion is told apart by its kind word, which must be present; the issues of its other fields
-- lie under that word. A date has parts that can be asked for, but none of them is a kind.
def check (v : Value) : Check Deletion :=
  match v.opened with
  | .mapping entries =>
    match field? "kind" entries with
    | none => .fail .noKind
    | some (.scalar (.text kind)) => ofKind kind entries
    | some other => .fail (.unknownKind other.inline)
  | .scalar (.stamp _) => .fail .noKind
  | _ => .fail .notDeletion

def toValue : Deletion → Value
  | .wire d => DeletedWire.toValue d
  | .component d => DeletedInstance.toValue d

end Deletion

namespace Topology

def check (e : Entries) : Check Topology :=
  (fun components wires => { components, wires })
    <$> optional "components" [] (listOf (recordOf .component Component.check)) e
    <*> optional "wires" [] (listOf (recordOf .wire Wire.check)) e

def toValue (t : Topology) : Value :=
  .record [("components", .list (t.components.map Component.toValue)),
    ("wires", .list (t.wires.map Wire.toValue))]

end Topology

instance : Record Topology where
  shape := .topology
  check := recordOf .topology Topology.check
  toValue := Topology.toValue

namespace Transaction

-- The fields of a transaction; the topology must be there.
def check (e : Entries) : Check Transaction :=
  (fun topology deletions => { topology, deletions })
    <$> required "topology" (recordOf .topology Topology.check) e
    <*> optional "deletions" [] (listOf Deletion.check) e

def toValue (t : Transaction) : Value :=
  .record [("topology", Topology.toValue t.topology),
    ("deletions", .list (t.deletions.map Deletion.toValue))]

end Transaction

instance : Record Transaction where
  shape := .transaction
  check := recordOf .transaction Transaction.check
  toValue := Transaction.toValue

namespace Registration

def check (e : Entries) : Check Registration :=
  (fun pid factory name role driver => { pid, factory, name, role, driver })
    <$> required "pid" text e
    <*> required "factory_pid" text e
    <*> optional "name" "" text e
    <*> required "role" role e
    <*> optional "driver_ref" none textOrNull e

def toValue (r : Registration) : Value :=
  .record [("pid", .text r.pid), ("factory_pid", .text r.factory), ("name", .text r.name),
    ("role", roleValue r.role), ("driver_ref", .optional r.driver)]

end Registration

instance : Record Registration where
  shape := .registration
  check := recordOf .registration Registration.check
  toValue := Registration.toValue

namespace Snapshot

def check (e : Entries) : Check Snapshot :=
  (fun graph components producerFactories consumerFactories drivers =>
      { graph, components, producerFactories, consumerFactories, drivers })
    <$> optional "graph" {} (recordOf .topology Topology.check) e
    <*> optional "components" [] (listOf (recordOf .registration Registration.check)) e
    <*> optional "producer_factories" [] (listOf text) e
    <*> optional "consumer_factories" [] (listOf text) e
    <*> optional "drivers" [] (listOf text) e

def toValue (s : Snapshot) : Value :=
  .record [("graph", Topology.toValue s.graph),
    ("components", .list (s.components.map Registration.toValue)),
    ("producer_factories", .texts s.producerFactories),
    ("consumer_factories", .texts s.consumerFactories),
    ("drivers", .texts s.drivers)]

end Snapshot

instance : Record Snapshot where
  shape := .snapshot
  check := recordOf .snapshot Snapshot.check
  toValue := Snapshot.toValue

namespace Settings

def check (e : Entries) : Check Settings :=
  (fun driverFactories logLevel => { driverFactories, logLevel })
    <$> optional "driver_factories" [assetFactory] (listOf text) e
    <*> optional "log_level" "INFO" text e

def toValue (s : Settings) : Value :=
  .record [("driver_factories", .texts s.driverFactories), ("log_level", .text s.logLevel)]

end Settings

instance : Record Settings where
  shape := .settings
  check := recordOf .settings Settings.check
  toValue := Settings.toValue

-- Checks `value` as a record of the given shape and writes the record again, with every declared
-- field present.
def normalize (shape : Shape) (value : Value) : Check Value :=
  let through (α : Type) [Record α] : Check Value := toValue <$> (Record.check value : Check α)
  match shape with
  | .newComponent => through NewComponent
  | .component => through Component
  | .wire => through Wire
  | .deletedWire => through DeletedWire
  | .deletedInstance => through DeletedInstance
  | .topology => through Topology
  | .transaction => through Transaction
  | .registration => through Registration
  | .snapshot => through Snapshot
  | .settings => through Settings

end WireGraph.Document
