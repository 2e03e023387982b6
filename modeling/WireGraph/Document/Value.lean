import WireGraph.Text.Code

/-!
# Document values

The values that a document can hold, whatever notation it was written in: scalars, lists, and
mappings from scalars to values. A mapping keeps its entries in order, and only its textual keys
name fields.

A document may refer from a place inside a collection to that collection. Its value has no end; here
it is unfolded far enough for everything that looks into it, with a label on each such collection by
which it is recognised further inside.
-/

namespace WireGraph.Document

structure Clock where
  hour : Nat
  minute : Nat
  second : Nat
  micro : Nat
  offset : Option Int
deriving DecidableEq, Repr

structure Stamp where
  year : Nat
  month : Nat
  day : Nat
  clock : Option Clock := none
deriving DecidableEq, Repr

-- A value without parts; the only values that may be keys.
inductive Scalar where
  | null
  | flag (value : Bool)
  | int (value : Int)
  | float (value : Float)
  | text (value : String)
  -- A text with half of a pair of units in it.
  | broken (pieces : List Text.Piece)
  | stamp (value : Stamp)
  | bytes (value : List UInt8)
deriving Repr, Inhabited

inductive Value where
  | scalar (value : Scalar)
  | list (items : List Value)
  | mapping (entries : List (Scalar × Value))
  | set (members : List Scalar)
  | pair (first second : Value)
  | labelled (label : Nat) (value : Value)
deriving Repr, Inhabited

namespace Value

abbrev null : Value := .scalar .null

abbrev text (s : String) : Value := .scalar (.text s)

abbrev flag (b : Bool) : Value := .scalar (.flag b)

def record (fields : List (String × Value)) : Value :=
  .mapping (fields.map fun f => (.text f.1, f.2))

def texts (items : List String) : Value := .list (items.map text)

def optional : Option String → Value
  | none => null
  | some s => text s

def opened : Value → Value
  | .labelled _ v => v
  | v => v

@[simp] theorem opened_scalar (s : Scalar) : opened (.scalar s) = .scalar s := rfl
@[simp] theorem opened_list (items : List Value) : opened (.list items) = .list items := rfl
@[simp] theorem opened_mapping (entries : List (Scalar × Value)) :
    opened (.mapping entries) = .mapping entries := rfl
@[simp] theorem opened_labelled (label : Nat) (v : Value) : opened (.labelled label v) = v := rfl

-- Whether a document with this value at its top counts as empty: null, zero, false, an empty text,
-- list or mapping.
def isBlank : Value → Bool
  | .scalar .null => true
  | .scalar (.flag b) => !b
  | .scalar (.int i) => i == 0
  | .scalar (.float x) => x == 0
  | .scalar (.text s) => s == ""
  | .scalar (.broken _) => false
  | .scalar (.stamp _) => false
  | .scalar (.bytes data) => data.isEmpty
  | .list items => items.isEmpty
  | .mapping entries => entries.isEmpty
  | .set members => members.isEmpty
  | .pair _ _ => false
  | .labelled _ _ => false

end Value

-- The value of the field `name`, the first one if it is repeated.
def field? (name : String) : List (Scalar × Value) → Option Value
  | [] => none
  | (.text key, value) :: rest => if key = name then some value else field? name rest
  | _ :: rest => field? name rest

@[simp] theorem field?_nil (name : String) : field? name [] = none := rfl

theorem field?_cons_text (name key : String) (value : Value) (rest : List (Scalar × Value)) :
    field? name ((.text key, value) :: rest)
      = if key = name then some value else field? name rest := rfl

end WireGraph.Document
