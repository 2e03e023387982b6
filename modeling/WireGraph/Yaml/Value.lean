import WireGraph.Document.Entries
import WireGraph.Yaml.Survey

/-!
# Values of webs

The value of a cell is put together from the values of its parts. Going through the web once gives
the value of every cell that does not contain itself. The others are unfolded layer by layer, as far
as anything looks into a value.
-/

namespace WireGraph.Yaml

open Document (Scalar Value putAll putKeys)

def orNull (s : Except Fault Scalar) : Scalar :=
  match s with
  | .ok s => s
  | .error _ => .null

namespace Web

-- The entries of a mapping, with each key's value and the number of its value.
def keyedEntries (w : Web) (i : Nat) : List (Scalar × Nat) :=
  match w.entriesOf i with
  | .ok entries => entries.map fun e => (orNull (w.key e.1), e.2)
  | .error _ => []

def pairOf (w : Web) (value : Nat → Value) (i : Nat) : Value :=
  match w.cell i with
  | .mapping _ [(first, second)] => .pair (value first) (value second)
  | _ => .null

def assemble (w : Web) (value : Nat → Value) (i : Nat) : Value :=
  match w.kind i, w.cell i with
  | .list, .sequence _ items => .list (items.map value)
  | .pairs, .sequence _ items => .list (items.map (w.pairOf value))
  | .mapping, .mapping _ _ => .mapping (putAll ((w.keyedEntries i).map fun e => (e.1, value e.2)))
  | .set, .mapping _ _ => .set (putKeys ((w.keyedEntries i).map (·.1)))
  | _, _ => .scalar (orNull (w.scalar i))

def needs (w : Web) (i : Nat) : List Nat :=
  if w.hasParts i then
    (w.parts i).filterMap fun
      | .value number => some number
      | _ => none
  else []

-- The values of cells by their numbers; a cell that contains itself has none yet.
abbrev Values := Array (Option Value)

def valueIn (values : Values) (i : Nat) : Option Value := (values[i]?).join

def settle (w : Web) (values : Values) : Values :=
  let i := values.size
  values.push
    (if (w.needs i).all fun part => (valueIn values part).isSome then
      some (w.assemble (fun part => (valueIn values part).getD .null) i)
    else none)

def settled (w : Web) : (count : Nat) → Values
  | 0 => #[]
  | count + 1 => w.settle (w.settled count)

def shell (w : Web) (i : Nat) : Value :=
  match w.kind i with
  | .list | .pairs => .list []
  | _ => .mapping []

def unfolded (w : Web) (values : Values) : (depth : Nat) → Array Value
  | 0 => values.mapIdx fun i value => value.getD (w.shell i)
  | depth + 1 =>
    let inner := w.unfolded values depth
    values.mapIdx fun i value =>
      value.getD (.labelled i (w.assemble (fun part => (inner[part]?).getD .null) i))

-- How far beyond the longest way without repetition a value is unfolded: the records that are read
-- from values are nested less deeply.
def recordDepth : Nat := 8

def value (w : Web) (root : Nat) : Value :=
  let values := w.settled w.size
  match valueIn values root with
  | some v => v
  | none =>
    let knotted := values.toList.countP Option.isNone
    ((w.unfolded values (knotted + recordDepth))[root]?).getD .null

end Web

def Node.value (node : Node) : Except Fault Value := do
  let (root, web) := node.lay {}
  web.survey root
  return web.value root

end WireGraph.Yaml
