import WireGraph.Yaml.Node
import WireGraph.Yaml.Scalar

/-!
# Webs

The nodes of a document under numbers, so that a node that is referred to is there only once. Each
node comes after its parts, apart from references to nodes around it.
-/

namespace WireGraph.Yaml

open Document (Scalar)

inductive Cell where
  | scalar (kind : Kind) (text : String)
  | broken (kind : Kind) (pieces : List Text.Piece)
  | sequence (kind : Kind) (items : List Nat)
  | mapping (kind : Kind) (entries : List (Nat × Nat))
deriving Repr, Inhabited

def Cell.kind : Cell → Kind
  | .scalar kind _ => kind
  | .broken kind _ => kind
  | .sequence kind _ => kind
  | .mapping kind _ => kind

structure Web where
  cells : Array Cell := #[]
  names : List (String × Nat) := []
deriving Repr, Inhabited

namespace Web

-- How many cells there are; the next cell takes this number.
def size (w : Web) : Nat := w.cells.size

def push (w : Web) (cell : Cell) : Web := { w with cells := w.cells.push cell }

def withName (w : Web) (name : String) (number : Nat) : Web :=
  { w with names := (name, number) :: w.names }

end Web

mutual

-- Adds the cells of a node; the answer is its number.
def Node.lay (w : Web) : Node → Nat × Web
  | .scalar kind text => (w.size, w.push (.scalar kind text))
  | .broken kind pieces => (w.size, w.push (.broken kind pieces))
  | .sequence kind items =>
    let (numbers, w) := layItems w items
    (w.size, w.push (.sequence kind numbers))
  | .mapping kind entries =>
    let (numbers, w) := layEntries w entries
    (w.size, w.push (.mapping kind numbers))
  | .anchored name node => node.lay (w.withName name (w.size + node.size - 1))
  | .reference name => ((w.names.lookup name).getD 0, w)

def layItems (w : Web) : List Node → List Nat × Web
  | [] => ([], w)
  | item :: rest =>
    let (number, w) := item.lay w
    let (numbers, w) := layItems w rest
    (number :: numbers, w)

def layEntries (w : Web) : List (Node × Node) → List (Nat × Nat) × Web
  | [] => ([], w)
  | (key, value) :: rest =>
    let (keyNumber, w) := key.lay w
    let (valueNumber, w) := value.lay w
    let (numbers, w) := layEntries w rest
    ((keyNumber, valueNumber) :: numbers, w)

end

namespace Web

-- The cell of a number; a number beyond all cells is that of an empty scalar.
def cell (w : Web) (i : Nat) : Cell := (w.cells[i]?).getD (.scalar .null "")

def kind (w : Web) (i : Nat) : Kind := (w.cell i).kind

-- The text that a cell holds: that of a scalar, or the one that a mapping holds under the equals
-- sign. A chain of such mappings has at most `limit` links.
def text (w : Web) : (limit : Nat) → Nat → Except Fault String
  | 0, _ => .error .malformed
  | limit + 1, i =>
    match w.cell i with
    | .scalar _ s => .ok s
    | .broken _ pieces => .ok (Text.spelled pieces)
    | .sequence _ _ => .error .malformed
    | .mapping _ entries =>
      match entries.find? fun e => w.kind e.1 == .equals with
      | some e => w.text limit e.2
      | none => .error .malformed

def scalar (w : Web) (i : Nat) : Except Fault Scalar :=
  match w.cell i with
  | .scalar kind s => kind.read s
  | .broken kind pieces => kind.readBroken pieces
  | .sequence _ _ => .error .malformed
  | .mapping kind _ => do
    if !kind.isScalar then .error .malformed
    let s ← w.text (w.size + 1) i
    if kind = .stamp then .error .notScalar
    kind.read s

-- The value of a cell as a key; the equals sign is text there.
def key (w : Web) (i : Nat) : Except Fault Scalar :=
  if w.kind i = .equals then .text <$> w.text (w.size + 1) i else w.scalar i

-- The entries of a mapping that do not ask for a merge.
def ownEntries (w : Web) (entries : List (Nat × Nat)) : List (Nat × Nat) :=
  entries.filter fun e => w.kind e.1 != .merge

def merges (w : Web) (entries : List (Nat × Nat)) : List Nat :=
  (entries.filter fun e => w.kind e.1 == .merge).map (·.2)

-- The entries of a mapping with those of the mappings that it asks to merge in before its own: of
-- one mapping, or of each in a list, the last one first. Inside itself a mapping has only its own
-- entries; `around` holds the mappings that are being merged into.
def entries (w : Web) : (limit : Nat) → (around : List Nat) → Nat → Except Fault (List (Nat × Nat))
  | 0, _, _ => .error .malformed
  | limit + 1, around, i =>
    match w.cell i with
    | .mapping _ written =>
      if around.contains i then .ok (w.ownEntries written)
      else do
        let merged ← (w.merges written).mapM fun target =>
          match w.cell target with
          | .mapping _ _ => w.entries limit (i :: around) target
          | .sequence _ items =>
            (fun lists => lists.reverse.flatten) <$> items.mapM (w.entries limit (i :: around))
          | _ => .error .malformed
        return merged.flatten ++ w.ownEntries written
    | _ => .error .malformed

def entriesOf (w : Web) (i : Nat) : Except Fault (List (Nat × Nat)) := w.entries (w.size + 2) [] i

inductive Part where
  | key (number : Nat)
  | value (number : Nat)
  | misfit
deriving DecidableEq, Repr

def pairParts (w : Web) (i : Nat) : List Part :=
  match w.cell i with
  | .mapping _ [(first, second)] => [.value first, .value second]
  | _ => [.misfit]

def parts (w : Web) (i : Nat) : List Part :=
  match w.kind i, w.cell i with
  | .list, .sequence _ items => items.map .value
  | .pairs, .sequence _ items => items.flatMap w.pairParts
  | .mapping, .mapping _ _ | .set, .mapping _ _ =>
    match w.entriesOf i with
    | .ok entries => entries.flatMap fun e => [.key e.1, .value e.2]
    | .error _ => [.misfit]
  | _, _ => [.misfit]

def hasParts (w : Web) (i : Nat) : Bool :=
  match w.kind i with
  | .list | .pairs | .mapping | .set => true
  | _ => false

end Web

end WireGraph.Yaml
