import WireGraph.Document.Value
import WireGraph.Number.Shortest
import WireGraph.Text.Printable

/-!
# Values on one line

The text of a value inside a message. A text stands there as it is; inside a list or a mapping it is
quoted. A collection inside itself is shown by three dots.
-/

namespace WireGraph.Document

def padded (width n : Nat) : String :=
  let digits := toString n
  "".pushn '0' (width - digits.length) ++ digits

def codeText (c : Char) : String :=
  let n := c.toNat
  String.ofList ('\\' ::
    (if n ≤ 0xFF then 'x' :: Text.hexDigits 2 n
    else if n ≤ 0xFFFF then 'u' :: Text.hexDigits 4 n
    else 'U' :: Text.hexDigits 8 n))

-- One character of a quoted text, with `quote`, the backslash and all that does not show escaped.
def quotedChar (quote : Char) (c : Char) : String :=
  if c = quote || c = '\\' then "\\" ++ c.toString
  else if c = '\n' then "\\n"
  else if c = '\r' then "\\r"
  else if c = '\t' then "\\t"
  else if Text.isPrintable c then c.toString
  else codeText c

-- The quote around a text: a single one, or a double one when the text holds single ones only.
def quoteFor (cs : List Char) : Char := if cs.contains '\'' && !cs.contains '"' then '"' else '\''

def quoted (s : String) : String :=
  let quote := quoteFor s.toList
  quote.toString ++ String.join (s.toList.map (quotedChar quote)) ++ quote.toString

-- A text with halves in it, quoted; a half is escaped by its code.
def quotedPieces (pieces : List Text.Piece) : String :=
  let quote := quoteFor (pieces.flatMap Text.Piece.shown)
  let one : Text.Piece → String
    | .char c => quotedChar quote c
    | half => String.ofList half.spelled
  quote.toString ++ String.join (pieces.map one) ++ quote.toString

-- A byte of quoted data; those beyond the basic characters are escaped.
def quotedByte (quote : Char) (b : UInt8) : String :=
  let c := Char.ofNat b.toNat
  if b.toNat < 127 then quotedChar quote c else codeText c

def quotedBytes (data : List UInt8) : String :=
  let quote := quoteFor (data.map fun b => Char.ofNat b.toNat)
  "b" ++ quote.toString ++ String.join (data.map (quotedByte quote)) ++ quote.toString

def offsetText (minutes : Int) : String :=
  (if minutes < 0 then "-" else "+") ++ padded 2 (minutes.natAbs / 60) ++ ":"
    ++ padded 2 (minutes.natAbs % 60)

-- A time of day; the fraction of a second is written only when there is one.
def Clock.inline (c : Clock) : String :=
  padded 2 c.hour ++ ":" ++ padded 2 c.minute ++ ":" ++ padded 2 c.second
    ++ (if c.micro = 0 then "" else "." ++ padded 6 c.micro)
    ++ (c.offset.map offsetText).getD ""

def Stamp.inline (s : Stamp) : String :=
  padded 4 s.year ++ "-" ++ padded 2 s.month ++ "-" ++ padded 2 s.day
    ++ (s.clock.map fun c => " " ++ c.inline).getD ""

-- A length of time in minutes, as full days and the seconds beyond them; what is zero is left out.
def spanText (minutes : Int) : String :=
  let days := minutes.fdiv (24 * 60)
  let seconds := minutes.fmod (24 * 60) * 60
  let parts := (if days = 0 then [] else ["days=" ++ toString days])
    ++ (if seconds = 0 then [] else ["seconds=" ++ toString seconds])
  "datetime.timedelta(" ++ (if parts = [] then "0" else ", ".intercalate parts) ++ ")"

def zoneText (minutes : Int) : String :=
  if minutes = 0 then "datetime.timezone.utc" else "datetime.timezone(" ++ spanText minutes ++ ")"

-- The numbers of a time of day inside a collection; what is zero at the end is left out.
def Clock.numbers (c : Clock) : List Nat :=
  [c.hour, c.minute] ++ (if c.second = 0 && c.micro = 0 then [] else [c.second])
    ++ (if c.micro = 0 then [] else [c.micro])

def Stamp.nested (s : Stamp) : String :=
  let date := [s.year, s.month, s.day]
  let listed (numbers : List Nat) : String := ", ".intercalate (numbers.map toString)
  match s.clock with
  | none => "datetime.date(" ++ listed date ++ ")"
  | some c =>
    "datetime.datetime(" ++ listed (date ++ c.numbers)
      ++ (c.offset.map fun o => ", tzinfo=" ++ zoneText o).getD "" ++ ")"

def Scalar.inline : Scalar → String
  | .null => "None"
  | .flag true => "True"
  | .flag false => "False"
  | .int i => toString i
  | .float x => Number.floatText x
  | .text s => s
  | .broken pieces => Text.shown pieces
  | .stamp s => s.inline
  | .bytes data => quotedBytes data

def Scalar.nested : Scalar → String
  | .text s => quoted s
  | .broken pieces => quotedPieces pieces
  | .stamp s => s.nested
  | other => other.inline

-- The members of a set; the braces alone would be an empty mapping.
def setText (members : List Scalar) : String :=
  if members.isEmpty then "set()"
  else "\x7b" ++ ", ".intercalate (members.map Scalar.nested) ++ "\x7d"

def Value.dots : Value → String
  | .list _ => "[...]"
  | .mapping _ => "\x7b...\x7d"
  | _ => "..."

mutual

def Value.nestedIn (around : List Nat) : Value → String
  | .scalar s => s.nested
  | .list items => "[" ++ nestedItems around items ++ "]"
  | .mapping entries => "\x7b" ++ nestedEntries around entries ++ "\x7d"
  | .set members => setText members
  | .pair first second => "(" ++ first.nestedIn around ++ ", " ++ second.nestedIn around ++ ")"
  | .labelled label v => if around.contains label then v.dots else v.nestedIn (label :: around)

def nestedItems (around : List Nat) : List Value → String
  | [] => ""
  | [item] => item.nestedIn around
  | item :: rest => item.nestedIn around ++ ", " ++ nestedItems around rest

def nestedEntries (around : List Nat) : List (Scalar × Value) → String
  | [] => ""
  | [(key, value)] => key.nested ++ ": " ++ value.nestedIn around
  | (key, value) :: rest =>
    key.nested ++ ": " ++ value.nestedIn around ++ ", " ++ nestedEntries around rest

end

def Value.nested (v : Value) : String := v.nestedIn []

def Value.inline : Value → String
  | .scalar s => s.inline
  | other => other.nested

end WireGraph.Document
