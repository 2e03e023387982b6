import WireGraph.Loading

/-!
# Batches

A batch edits the session of a snapshot and saves it in one go: first wires are added, then
components removed, all by name, and the transaction is written to a file. The first name without a
component and the first fault end the batch.
-/

namespace WireGraph

-- The edits of a batch and the file that it saves to. A pair names a producer and a consumer with a
-- colon between them.
structure Batch where
  pairs : List String := []
  removals : List String := []
  out : Path
deriving Repr

inductive BatchError where
  | unknownName (name : String)
  | fault (cause : Fault)
deriving Repr

-- The two names of a pair: what stands before the first colon, and what after it.
def pairNames (pair : String) : String × String :=
  let (before, after) := pair.toList.span (· != ':')
  (String.ofList before, String.ofList after.tail)

namespace Session

def idOf (s : Session) (name : String) : Except BatchError String :=
  match s.graph.named? name with
  | some c => .ok c.id
  | none => .error (.unknownName name)

def mustEdit (s : Session) (e : Edit) : Except BatchError Session :=
  match s.edit e with
  | (.ok _, edited) => .ok edited
  | (.error f, _) => .error (.fault f)

def connectPair (s : Session) (pair : String) : Except BatchError Session := do
  let producer ← s.idOf (pairNames pair).1
  let consumer ← s.idOf (pairNames pair).2
  s.mustEdit (.connect producer consumer)

def removeNamed (s : Session) (name : String) : Except BatchError Session := do
  let id ← s.idOf name
  s.mustEdit (.remove id)

-- Saves the session to a file; the answer is the transaction, with the files as they are then.
def saveTo (s : Session) (files : FileTree) (path : Path) : Except Fault Transaction × FileTree :=
  match s.checkOpen, s.beginSave with
  | .error f, _ => (.error f, files)
  | .ok (), .error f => (.error f, files)
  | .ok (), .ok (t, _) =>
    match files.save path (Document.writeRecord t) with
    | (.ok (), saved) => (.ok t, saved)
    | (.error e, left) => (.error (.ofWriting path e), left)

end Session

namespace Batch

def edited (b : Batch) (s : Session) : Except BatchError Session := do
  let joined ← b.pairs.foldlM Session.connectPair s
  b.removals.foldlM Session.removeNamed joined

-- Runs the batch on a session; the answer is the transaction that was saved, with the files as they
-- are then.
def run (b : Batch) (files : FileTree) (s : Session) : Except BatchError Transaction × FileTree :=
  match b.edited s with
  | .error e => (.error e, files)
  | .ok s =>
    match s.saveTo files b.out with
    | (.ok t, saved) => (.ok t, saved)
    | (.error f, left) => (.error (.fault f), left)

end Batch

end WireGraph
