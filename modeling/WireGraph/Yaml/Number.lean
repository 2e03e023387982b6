import WireGraph.Fault
import WireGraph.Text.Blank
import WireGraph.Text.Case
import WireGraph.Text.Digit
import WireGraph.Yaml.Numeral

/-!
# Numbers

The values of whole numbers and of numbers with a fraction. A tag may ask for a number where the
characters are none, so each reader says what is wrong with them.
-/

namespace WireGraph.Yaml

def scientific (digits : Nat) (exponent : Int) : Float :=
  if exponent < 0 then Float.ofScientific digits true exponent.natAbs
  else Float.ofScientific digits false exponent.natAbs

def signed {α : Type} [Neg α] (negative : Bool) (size : α) : α := if negative then -size else size

def plainNumeral (cs : List Char) : List Char := (Text.trim cs).map Text.plainDigit

def sixtieths {α : Type} [Add α] [Mul α] (unit : Nat → α) (start : α) (places : List α) : α :=
  (places.reverse.foldl (fun (sum, base) place => (sum + place * unit base, base * 60))
    ((start, 1) : α × Nat)).1

/-! ## Whole numbers -/

def baseLetters : Nat → List Char
  | 2 => ['b', 'B']
  | 8 => ['o', 'O']
  | 16 => ['x', 'X']
  | _ => []

def withoutBase (base : Nat) : List Char → List Char
  | '0' :: letter :: rest => if (baseLetters base).contains letter then rest else '0' :: letter :: rest
  | cs => cs

def isDigitIn (base : Nat) (c : Char) : Bool := isHex c && digitValue c < base

def wholeNumber (base : Nat) (cs : List Char) : Except Fault Int :=
  let body := plainNumeral cs
  let (digits, rest) := (withoutBase base (unsigned body)).span (isDigitIn base)
  if base = 10 ∧ digitLimit < digits.length then .error (.scalar (.tooManyDigits digits.length))
  else if digits = [] ∨ rest ≠ [] then .error (.scalar (.digits base (String.ofList cs)))
  else .ok (signed (isNegative body) (number base digits : Int))

def intBody : List Char → Except Fault Int
  | [] => .error (.scalar .noNumber)
  | ['0'] => .ok 0
  | '0' :: 'b' :: rest => wholeNumber 2 rest
  | '0' :: 'x' :: rest => wholeNumber 16 rest
  | '0' :: rest => wholeNumber 8 ('0' :: rest)
  | cs =>
    if cs.contains ':' then
      sixtieths (fun base : Nat => (base : Int)) 0 <$> (splitAt ':' cs).mapM (wholeNumber 10)
    else wholeNumber 10 cs

def intValue (s : String) : Except Fault Int :=
  match s.toList.filter (· != '_') with
  | [] => .error (.scalar .noNumber)
  | cs => signed (isNegative cs) <$> intBody (unsigned cs)

/-! ## Numbers with a fraction -/

def exponent? : List Char → Option Int
  | [] => some 0
  | 'e' :: rest =>
    let digits := unsigned rest
    if digits ≠ [] ∧ digits.all isDigit then some (signed (isNegative rest) (number 10 digits : Int))
    else none
  | _ => none

def decimal? (cs : List Char) : Option Float :=
  let (lead, rest) := cs.span isDigit
  let (fraction, rest) := match rest with
    | '.' :: more => more.span isDigit
    | _ => ([], rest)
  if lead = [] ∧ fraction = [] then none
  else (exponent? rest).map fun e => scientific (number 10 (lead ++ fraction)) (e - fraction.length)

-- A number without its sign: digits, or one of the words for infinity and for no number.
def size? (cs : List Char) : Option Float :=
  if cs = "inf".toList ∨ cs = "infinity".toList then some (1 / 0)
  else if cs = "nan".toList then some (0 / 0)
  else decimal? cs

def realNumber (cs : List Char) : Except Fault Float :=
  let body := plainNumeral cs
  match size? (unsigned body) with
  | some size => .ok (signed (isNegative body) size)
  | none => .error (.scalar (.notFloat (String.ofList cs)))

def floatBody (cs : List Char) : Except Fault Float :=
  if cs = ".inf".toList then .ok (1 / 0)
  else if cs = ".nan".toList then .ok (0 / 0)
  else if cs.contains ':' then
    sixtieths Float.ofNat 0 <$> (splitAt ':' cs).mapM realNumber
  else realNumber cs

def floatValue (s : String) : Except Fault Float :=
  match (s.toList.filter (· != '_')).flatMap Text.lowerChars with
  | [] => .error (.scalar .noNumber)
  | cs => signed (isNegative cs) <$> floatBody (unsigned cs)

end WireGraph.Yaml
