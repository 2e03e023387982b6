import WireGraph.Document.Text
import WireGraph.Script.Step

/-!
# Running scripts

A script is a list of actions: single steps, blocks that run under the lock, and saves. A registry
that is handed a transaction may itself run a script before it rules; that script meets the locked
graph. Every action leaves a trace: its outcome, the traces of the script inside it, and the session
after it.

An action ends in a fault without ending the script, unless the script is told to stop at the first
fault; the fault is then that of the action around it.
-/

namespace WireGraph

inductive Verdict where
  | accept
  | refuse (fault : Fault)
  | write (files : FileTree) (path : Path)
deriving Repr

def Verdict.rule (v : Verdict) (t : Transaction) : Except Fault (Option String) :=
  match v with
  | .accept => .ok none
  | .refuse fault => .error fault
  | .write files path =>
    match files.save path (Document.writeRecord t) with
    | (.ok (), _) => .ok (some (Document.writeRecord t))
    | (.error e, _) => .error (.ofWriting path e)

inductive Action where
  | step (s : Step)
  | hold (script : List Action) (stops : Bool)
  | save (session : Bool) (script : List Action) (stops : Bool) (verdict : Verdict)
deriving Repr

-- What an action came to. `submitted` is the transaction that reached a registry, `inner` is there
-- when the script of the action was reached, and `written` when the registry wrote a text.
structure Trace where
  outcome : Except Fault Answer
  submitted : Option Transaction := none
  inner : Option (List Trace) := none
  written : Option String := none
  after : Session
deriving Repr

-- What a script came to: its traces, the fault that stopped it, and the session at its end.
structure Course where
  traces : List Trace
  stop : Option Fault
  after : Session
deriving Repr

namespace Session

-- Only an open session can be saved; the graph alone can be saved in any case.
def checkSave (s : Session) (session : Bool) : Except Fault Unit :=
  if session then s.checkOpen else .ok ()

def beginHold (s : Session) : Except Fault Session :=
  match s.graph.checkUnlocked with
  | .error f => .error f
  | .ok () => .ok { s with graph := s.graph.hold }

-- The ruling on a transaction whose registry ran a script: the fault that stopped the script comes
-- before the verdict.
def ruling (stop : Option Fault) (verdict : Verdict) (t : Transaction) :
    Except Fault (Option String) :=
  match stop with
  | some f => .error f
  | none => verdict.rule t

def concludeSave (earlier : Session) (session : Bool) (t : Transaction) (course : Course)
    (ruled : Except Fault (Option String)) : Trace :=
  match ruled with
  | .ok written =>
    let ended := earlier.endSave true course.after
    { outcome := .ok (.transaction t)
      submitted := some t
      inner := some course.traces
      written
      after := if session then ended.clean else ended }
  | .error f =>
    { outcome := .error f
      submitted := some t
      inner := some course.traces
      after := earlier.endSave false course.after }

def concludeHold (earlier : Session) (course : Course) : Trace :=
  { outcome := match course.stop with
      | some f => .error f
      | none => .ok .done
    inner := some course.traces
    after := earlier.giveBack course.after }

mutual

def perform (s : Session) : Action → Trace
  | .step step => { outcome := (s.step step).1, after := (s.step step).2 }
  | .hold script stops =>
    match s.beginHold with
    | .error f => { outcome := .error f, inner := some [], after := s }
    | .ok held => s.concludeHold (held.runAll stops script)
  | .save session script stops verdict =>
    match s.checkSave session with
    | .error f => { outcome := .error f, after := s }
    | .ok () =>
      match s.beginSave with
      | .error f => { outcome := .error f, after := s }
      | .ok (t, held) =>
        let course := held.runAll stops script
        s.concludeSave session t course (ruling course.stop verdict t)

-- Performs the actions of a script in order, to the end or to the first fault.
def runAll (s : Session) (stops : Bool) : List Action → Course
  | [] => ⟨[], none, s⟩
  | action :: rest =>
    let trace := s.perform action
    match stops, trace.outcome with
    | true, .error f => ⟨[trace], some f, trace.after⟩
    | _, _ =>
      let course := trace.after.runAll stops rest
      { course with traces := trace :: course.traces }

end

end Session

end WireGraph
