import WireGraph.Yaml.Binary
import WireGraph.Yaml.Kind
import WireGraph.Yaml.Number

/-!
# Scalars

The value that the text of a scalar has in each kind. A kind that was found by looking at the text
always has a value, unless it is a date that does not exist or a number without digits; a kind that a
tag asks for may not suit the text.
-/

namespace WireGraph.Yaml

open Document (Scalar)

def flagWords : List (String × Bool) :=
  [("yes", true), ("no", false), ("true", true), ("false", false), ("on", true), ("off", false)]

def flagValue (s : String) : Except Fault Bool :=
  match flagWords.lookup (Text.lower s) with
  | some b => .ok b
  | none => .error (.scalar (.unknownWord (Text.lower s)))

-- The value of a text in a kind; only kinds without parts have one.
def Kind.read (kind : Kind) (s : String) : Except Fault Scalar :=
  match kind with
  | .text => .ok (.text s)
  | .null => .ok .null
  | .flag => .flag <$> flagValue s
  | .int => .int <$> intValue s
  | .float => .float <$> floatValue s
  | .stamp => .stamp <$> stampValue s
  | .binary => .bytes <$> binaryValue s
  | _ => .error .malformed

-- The value of a text with halves in it. None but a text can have them; another kind fails at them
-- as it does at any characters that are not its own.
def Kind.readBroken (kind : Kind) (pieces : List Text.Piece) : Except Fault Scalar :=
  match kind with
  | .text => .ok (.broken pieces)
  | _ => kind.read (Text.shown pieces)

@[simp] theorem Kind.read_text (s : String) : Kind.text.read s = .ok (.text s) := rfl

@[simp] theorem Kind.read_null (s : String) : Kind.null.read s = .ok .null := rfl

end WireGraph.Yaml
