import WireGraph.Yaml.Kind

/-!
# Nodes

A document as it is written: scalars, sequences and mappings, each of a kind. A node may carry a
name, and a reference stands for the node of its name, which may be a node around it.
-/

namespace WireGraph.Yaml

inductive Node where
  | scalar (kind : Kind) (text : String)
  -- A scalar with half of a pair of units in its text.
  | broken (kind : Kind) (pieces : List Text.Piece)
  | sequence (kind : Kind) (items : List Node)
  | mapping (kind : Kind) (entries : List (Node × Node))
  | anchored (name : String) (node : Node)
  | reference (name : String)
deriving Repr, Inhabited

mutual

def Node.size : Node → Nat
  | .scalar _ _ => 1
  | .broken _ _ => 1
  | .sequence _ items => sizeOfItems items + 1
  | .mapping _ entries => sizeOfEntries entries + 1
  | .anchored _ node => node.size
  | .reference _ => 0

def sizeOfItems : List Node → Nat
  | [] => 0
  | item :: rest => item.size + sizeOfItems rest

def sizeOfEntries : List (Node × Node) → Nat
  | [] => 0
  | (key, value) :: rest => key.size + value.size + sizeOfEntries rest

end

end WireGraph.Yaml
