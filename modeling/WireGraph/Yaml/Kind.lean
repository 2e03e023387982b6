import WireGraph.Yaml.Stamp

/-!
# Kinds

Every node of a document is of a kind, which says what value it has. A tag names the kind; without
one the characters of a scalar decide: a scalar without quotes may be a truth word, a null word, a
whole number in one of several notations, a number with a fraction, or a date.
-/

namespace WireGraph.Yaml

inductive Kind where
  | text
  | null
  | flag
  | int
  | float
  | stamp
  | binary
  | list
  | mapping
  | set
  -- A list of pairs, each written as a mapping with one entry.
  | pairs
  | merge
  | equals
  | unknown
deriving DecidableEq, Repr, Inhabited

def Kind.isScalar : Kind → Bool
  | .text | .null | .flag | .int | .float | .stamp | .binary => true
  | _ => false

def tagRoot : String := "tag:yaml.org,2002:"

def kindNames : List (String × Kind) :=
  [("str", .text), ("null", .null), ("bool", .flag), ("int", .int), ("float", .float),
    ("timestamp", .stamp), ("binary", .binary), ("seq", .list), ("map", .mapping), ("set", .set),
    ("omap", .pairs), ("pairs", .pairs), ("merge", .merge), ("value", .equals)]

def Kind.ofTag (tag : String) : Kind :=
  if tag.startsWith tagRoot then
    (kindNames.lookup (tag.drop tagRoot.length).toString).getD .unknown
  else .unknown

def yesWords : List String :=
  ["yes", "Yes", "YES", "true", "True", "TRUE", "on", "On", "ON"]

def noWords : List String :=
  ["no", "No", "NO", "false", "False", "FALSE", "off", "Off", "OFF"]

def nullWords : List String := ["", "~", "null", "Null", "NULL"]

def infinityWords : List String := [".inf", ".Inf", ".INF"]

def nanWords : List String := [".nan", ".NaN", ".NAN"]

def isSixtieth : List Char → Bool
  | [c] => isDigit c
  | [t, c] => '0' ≤ t && t ≤ '5' && isDigit c
  | _ => false

-- Several places in base sixty, the first of them any run of digits.
def isSexagesimal (cs : List Char) : Bool :=
  match splitAt ':' cs with
  | [] => false
  | [_] => false
  | lead :: places => isRun isDigit lead && places.all isSixtieth

def isIntBody : List Char → Bool
  | ['0'] => true
  | '0' :: 'b' :: rest => !rest.isEmpty && allDigits isBinary rest
  | '0' :: 'x' :: rest => !rest.isEmpty && allDigits isHex rest
  | '0' :: rest => allDigits isOctal rest
  | cs => isRun isDigit cs || isSexagesimal cs

def isExponent : List Char → Bool
  | [] => true
  | e :: sign :: digits =>
    (e == 'e' || e == 'E') && (sign == '+' || sign == '-') && !digits.isEmpty
      && digits.all isDigit
  | _ => false

def fractionParts (cs : List Char) : List Char × List Char :=
  cs.span fun c => isDigit c || c == '_'

def isPointed (cs : List Char) : Bool :=
  let (lead, rest) := cs.span (· != '.')
  match rest with
  | [] => false
  | _ :: fraction =>
    (isRun isDigit lead && isExponent (fractionParts fraction).2)
      || (isSexagesimal lead && (fractionParts fraction).2.isEmpty)

def isPointFirst : List Char → Bool
  | '.' :: rest => isRun isDigit (fractionParts rest).1 && isExponent (fractionParts rest).2
  | _ => false

def isFloat (cs : List Char) : Bool :=
  isPointed (unsigned cs) || isPointFirst cs
    || infinityWords.contains (String.ofList (unsigned cs)) || nanWords.contains (String.ofList cs)

def kindOf (s : String) : Kind :=
  let cs := s.toList
  if nullWords.contains s then .null
  else if yesWords.contains s || noWords.contains s then .flag
  else if s = "<<" then .merge
  else if s = "=" then .equals
  else if isFloat cs then .float
  else if isIntBody (unsigned cs) then .int
  else if isPlainStamp cs then .stamp
  else .text

-- The kind of a scalar that counts as plain however it is written; a line end may follow it.
def kindOfAny (s : String) : Kind :=
  if s = "\n" then .text else kindOf (String.ofList (withoutLastBreak s.toList))

end WireGraph.Yaml
