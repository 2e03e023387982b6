import WireGraph.Fault
import WireGraph.Record

/-!
# Templates

Two snapshots to start from, known by name: a timer wired to a logger, and an asset beside a store.
-/

namespace WireGraph

inductive Template where
  | assetStore
  | timerLogger
deriving DecidableEq, Repr

namespace Template

def all : List Template := [.assetStore, .timerLogger]

def name : Template → String
  | .assetStore => "asset-store"
  | .timerLogger => "timer-logger"

def fileName : Template → String
  | .assetStore => "asset_store.yaml"
  | .timerLogger => "timer_logger.yaml"

def factory (short : String) : String := "org.eclipse.kura.wire." ++ short

def producers : List String :=
  ["Timer", "WireAsset", "DbWireRecordStore", "DbWireRecordFilter", "CloudSubscriber"].map factory

def consumers : List String :=
  ["Logger", "WireAsset", "DbWireRecordStore", "DbWireRecordFilter", "CloudPublisher"].map factory

def graph : Template → Topology
  | .assetStore => {}
  | .timerLogger =>
    { components := [
        { id := "c-timer", pid := "timer1", factory := factory "Timer", name := "timer1"
          role := .producer },
        { id := "c-logger", pid := "logger1", factory := factory "Logger", name := "logger1"
          role := .consumer }]
      wires := [
        { id := "w-timer-logger", producer := "c-timer", consumer := "c-logger", fresh := false }] }

def registered : Template → List Registration
  | .assetStore => [
      { pid := "modbusAsset", factory := factory "WireAsset", name := "modbusAsset", role := .both
        driver := some "modbusDriver" },
      { pid := "store", factory := factory "DbWireRecordStore", name := "store", role := .both }]
  | .timerLogger => [
      { pid := "timer1", factory := factory "Timer", name := "timer1", role := .producer },
      { pid := "logger1", factory := factory "Logger", name := "logger1", role := .consumer },
      { pid := "publisher1", factory := factory "CloudPublisher", role := .consumer }]

def drivers : Template → List String
  | .assetStore => ["modbusDriver"]
  | .timerLogger => []

def snapshot (t : Template) : Snapshot :=
  { graph := t.graph
    components := t.registered
    producerFactories := producers
    consumerFactories := consumers
    drivers := t.drivers }

def find (name : String) : Except Fault Template :=
  match all.find? fun t => t.name == name.toLower with
  | some t => .ok t
  | none => .error (.unknownTemplate name (all.map (·.name)))

end Template

end WireGraph
