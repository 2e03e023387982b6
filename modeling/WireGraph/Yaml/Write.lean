import WireGraph.Document.Inline
import WireGraph.Yaml.Escape
import WireGraph.Yaml.Glyph
import WireGraph.Yaml.Kind

/-!
# Writing YAML

Values in block style. The fields of a mapping stand below each other, a mapping inside a field two
columns further in, and the items of a list at the column of its field. A text is written without
quotes where that reads back as the same text, in single quotes where they suffice, and in double
quotes otherwise; long texts are broken into lines at spaces. Values that no record holds are left
out.
-/

namespace WireGraph.Yaml

open Document (Scalar Value)

def width : Nat := 80

def spaces (n : Nat) : List Char := List.replicate n ' '

def newLine (indent : Nat) : List Char := '\n' :: spaces indent

-- A character that needs no escape between double quotes, apart from the quote and backslash.
def isBasic (c : Char) : Bool := ' ' ≤ c && c ≤ '~'

/-! ## Styles -/

inductive Style where
  | plain
  | single
  | double
deriving DecidableEq, Repr

def hasLooseBreak : List Char → Bool
  | a :: b :: rest => (a == ' ' && b == '\n') || (a == '\n' && b == ' ') || hasLooseBreak (b :: rest)
  | _ => false

def needsDouble (cs : List Char) : Bool :=
  cs.any (fun c => c != '\n' && !isBasic c) || hasLooseBreak cs

def leadIndicators : List Char :=
  ['#', ',', '[', ']', '{', '}', '&', '*', '!', '|', '>', '\'', '"', '%', '@', Char.ofNat 0x60]

def blankNext : List Char → Bool
  | [] => true
  | c :: _ => isBlank c

def badStart : List Char → Bool
  | [] => false
  | c :: rest =>
    leadIndicators.contains c || ((c == '?' || c == ':' || c == '-') && blankNext rest)
      || ['-', '-', '-'].isPrefixOf (c :: rest) || ['.', '.', '.'].isPrefixOf (c :: rest)

-- Whether something inside a text would be taken for an indicator: a colon before a blank, or a
-- number sign after one.
def badInside (before : Char) : List Char → Bool
  | [] => false
  | c :: rest => (c == ':' && blankNext rest) || (c == '#' && isBlank before) || badInside c rest

def isPlainText (cs : List Char) : Bool :=
  match cs with
  | [] => false
  | c :: rest =>
    kindOf (String.ofList cs) == .text && !cs.contains '\n' && c != ' '
      && cs.getLast? != some ' ' && !badStart cs && !badInside c rest

def styleOf (cs : List Char) : Style :=
  if needsDouble cs then .double else if isPlainText cs then .plain else .single

/-! ## Texts -/

-- Whether a space may be replaced by a new line: it stands alone, in a line that is full.
def breaksHere (column : Nat) (c : Char) (before : Option Char) (rest : List Char) : Bool :=
  c == ' ' && before != some ' ' && rest.head? != some ' ' && width < column

def plainText (indent column : Nat) (before : Option Char) : List Char → List Char
  | [] => []
  | c :: rest =>
    if breaksHere column c before rest then newLine indent ++ plainText indent indent (some c) rest
    else c :: plainText indent (column + 1) (some c) rest

-- The rest of a text between single quotes. A quote is doubled, and a run of line ends takes one
-- more.
def singleText (indent column : Nat) (before : Option Char) : List Char → List Char
  | [] => []
  | c :: rest =>
    if c = '\'' then '\'' :: '\'' :: singleText indent (column + 2) (some c) rest
    else if c = '\n' then
      (if before = some '\n' then [] else ['\n']) ++ '\n'
        :: (if rest.head? = some '\n' then singleText indent 0 (some c) rest
          else spaces indent ++ singleText indent indent (some c) rest)
    else if breaksHere column c before rest && before.isSome && !rest.isEmpty then
      newLine indent ++ singleText indent indent (some c) rest
    else c :: singleText indent (column + 1) (some c) rest

def isEscaped (c : Char) : Bool := c == '"' || c == '\\' || !isBasic c

-- An escaped line end, with a backslash before a space that comes first on the new line.
def escapedBreak (indent : Nat) (next : Option Char) : List Char :=
  '\\' :: newLine indent ++ (if next = some ' ' then ['\\'] else [])

def columnAfterBreak (indent : Nat) (next : Option Char) : Nat :=
  if next = some ' ' then indent + 1 else indent

-- The rest of a text between double quotes. A full line is broken before a space and next to an
-- escape, but neither before the first nor the last character.
def doubleText (indent column : Nat) (first afterEscape : Bool) : List Char → List Char
  | [] => []
  | c :: rest =>
    let inner := !first && !rest.isEmpty
    if isEscaped c then
      let full := column + (escaped c).length
      if inner && width + 1 < full then
        escaped c ++ escapedBreak indent rest.head?
          ++ doubleText indent (columnAfterBreak indent rest.head?) false true rest
      else escaped c ++ doubleText indent full false true rest
    else if inner && (c == ' ' || afterEscape) && width < column then
      escapedBreak indent (some c) ++ c
        :: doubleText indent (columnAfterBreak indent (some c) + 1) false false rest
    else c :: doubleText indent (column + 1) false false rest

-- A text in the given style, which begins at `column`; its later lines are indented.
def styledText (style : Style) (indent column : Nat) (cs : List Char) : List Char :=
  match style with
  | .plain => plainText indent column none cs
  | .single => '\'' :: singleText indent (column + 1) none cs ++ ['\'']
  | .double => '"' :: doubleText indent (column + 1) true false cs ++ ['"']

def textAt (indent column : Nat) (s : String) : List Char :=
  styledText (styleOf s.toList) indent column s.toList

def flagWord (b : Bool) : String := if b then "true" else "false"

def scalarAt (indent column : Nat) : Scalar → List Char
  | .null => "null".toList
  | .flag b => (flagWord b).toList
  | .text s => textAt indent column s
  | other => other.inline.toList

def keyText (key : Scalar) : List Char := key.inline.toList

/-! ## Values -/

mutual

def blockAt (column : Nat) : Value → List Char
  | .scalar s => scalarAt column column s ++ ['\n']
  | .list items => itemsAt column items
  | .mapping entries => entriesAt column entries
  | _ => ['\n']

-- The items of a list, each after a dash; the first dash stands at `column` already.
def itemsAt (column : Nat) : List Value → List Char
  | [] => ['[', ']', '\n']
  | [item] => '-' :: ' ' :: blockAt (column + 2) item
  | item :: rest => '-' :: ' ' :: blockAt (column + 2) item ++ spaces column ++ itemsAt column rest

-- The fields of a mapping; the first stands at `column` already.
def entriesAt (column : Nat) : List (Scalar × Value) → List Char
  | [] => ['\x7b', '\x7d', '\n']
  | [(key, value)] => keyText key ++ ':' :: fieldAt column (keyText key).length value
  | (key, value) :: rest =>
    keyText key ++ ':' :: fieldAt column (keyText key).length value ++ spaces column
      ++ entriesAt column rest

-- The value of a field after its colon; the key takes `used` columns from `column` on.
def fieldAt (column used : Nat) : Value → List Char
  | .scalar s => ' ' :: scalarAt (column + 2) (column + used + 2) s ++ ['\n']
  | .list [] => [' ', '[', ']', '\n']
  | .list items => newLine column ++ itemsAt column items
  | .mapping [] => [' ', '\x7b', '\x7d', '\n']
  | .mapping entries => newLine (column + 2) ++ entriesAt (column + 2) entries
  | _ => ['\n']

end

def write (v : Value) : String := String.ofList (blockAt 0 v)

end WireGraph.Yaml
