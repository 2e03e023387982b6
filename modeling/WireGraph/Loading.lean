import WireGraph.Document.Text
import WireGraph.Report
import WireGraph.Session

/-!
# Loading

Settings, snapshots and transactions from files, and what can be told about the graph of a snapshot
file: its report and its plan.
-/

namespace WireGraph

open Document (readRecord)

namespace FileTree

def orFile {α : Type} : Except FileError α → Except Fault α
  | .ok a => .ok a
  | .error e => .error (.file e)

-- The settings at a path; without a path, or where nothing stands, the default settings.
def loadSettings (t : FileTree) : Option Path → Except Fault Settings
  | none => .ok {}
  | some path => do
    if ← orFile (t.holds path) then
      let text ← orFile (t.read path)
      readRecord Settings text
    else return {}

def loadSnapshot (t : FileTree) (path : Path) : Except Fault Snapshot := do
  let text ← orFile (t.read path)
  readRecord Snapshot text

def loadTransaction (t : FileTree) (path : Path) : Except Fault Transaction := do
  let text ← orFile (t.read path)
  readRecord Transaction text

def openSession (t : FileTree) (path : Path) (settings : Settings) (supply : List String := []) :
    Except Fault Session := do
  let snapshot ← t.loadSnapshot path
  Session.start snapshot settings supply

def report (t : FileTree) (path : Path) (supply : List String := []) : Except Fault Report := do
  let session ← t.openSession path {} supply
  session.graph.report

def plan (t : FileTree) (path : Path) (supply : List String := []) : Except Fault String := do
  let session ← t.openSession path {} supply
  session.graph.plan

end FileTree

end WireGraph
