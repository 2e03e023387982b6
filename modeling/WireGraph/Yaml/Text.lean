import WireGraph.Yaml.Escape
import WireGraph.Yaml.Glyph
import WireGraph.Yaml.Numeral

/-!
# Scalar texts

The characters that a scalar stands for, in each of the styles it can be written in. Each reader goes
through the glyphs once and gives the characters and the glyphs that come after the scalar. White
space inside a scalar is held back until it is known what follows: a single line end becomes a space,
and of several the first is dropped.
-/

namespace WireGraph.Yaml

-- What was read, and the glyphs that come after it.
abbrev Scanned (α : Type) := List α × List Glyph

def Scanned.after {α : Type} (read : List α) (s : Scanned α) : Scanned α := (read ++ s.1, s.2)

inductive Held where
  | nothing
  | blanks (chars : List Char)
  | breaks (first : Char) (more : List Char)
  -- A line end that was escaped; later ones count in full.
  | joined
deriving DecidableEq, Repr

namespace Held

def chars : Held → List Char
  | .nothing => []
  | .blanks cs => cs
  | .breaks first more =>
    if first = '\n' then (if more = [] then [' '] else more) else first :: more
  | .joined => []

-- A space or tab more; at the start of a line it does not count.
def withBlank (c : Char) : Held → Held
  | .nothing => .blanks [c]
  | .blanks cs => .blanks (cs ++ [c])
  | .breaks first more => .breaks first more
  | .joined => .joined

end Held

/-! ## Plain scalars -/

def flowEnds : List Char := [',', '?', '[', ']', '{', '}']

def flowColonEnds : List Char := [',', '[', ']', '{', '}']

def endsPlain (flow : Bool) (g : Glyph) (rest : List Glyph) : Bool :=
  isBlank g.char
    || (g.char == ':'
      && (atBlank rest || (flow && rest.head?.any fun next => flowColonEnds.contains next.char)))
    || (flow && flowEnds.contains g.char)

-- The characters that cannot begin a plain scalar, or only before certain others.
def indicators : List Char :=
  ['-', '?', ':', ',', '[', ']', '{', '}', '#', '&', '*', '!', '|', '>', '\'', '"', '%', '@',
    Char.ofNat 0x60]

def beginsPlain (flow : Bool) (g : Glyph) (rest : List Glyph) : Bool :=
  (!isBlank g.char && !indicators.contains g.char)
    || (!atBlank rest && (g.char == '-' || (!flow && (g.char == '?' || g.char == ':'))))

-- The rest of a plain scalar. Outside flow collections its later lines stand at column `floor` or
-- further in.
def plainFrom (flow : Bool) (floor : Nat) (held : Held) : List Glyph → Scanned Char
  | [] => ([], [])
  | g :: rest =>
    if g.char = ' ' then plainFrom flow floor (held.withBlank ' ') rest
    else if isBreak g.char then
      match held with
      | .breaks first more =>
        if atDocumentMarker rest then ([], rest)
        else plainFrom flow floor (.breaks first (more ++ [breakChar g.char])) rest
      | _ =>
        if atDocumentMarker rest then ([], rest)
        else plainFrom flow floor (.breaks (breakChar g.char) []) rest
    else if endsPlain flow g rest then ([], g :: rest)
    else if held ≠ .nothing ∧ (g.char = '#' ∨ (flow = false ∧ g.spot.column < floor)) then
      ([], g :: rest)
    else (plainFrom flow floor .nothing rest).after (held.chars ++ [g.char])

/-! ## Quoted scalars -/

-- A line end inside quotes; no document may begin or end on the line after it.
def heldBreak (c : Char) : Held → Held
  | .breaks first more => .breaks first (more ++ [breakChar c])
  | _ => .breaks (breakChar c) []

def singleFrom (held : Held) : List Glyph → Except Fault (Scanned Char)
  | [] => .error .malformed
  | g :: rest =>
    if g.char = ' ' ∨ g.char = '\t' then singleFrom (held.withBlank g.char) rest
    else if isBreak g.char then
      if atDocumentMarker rest then .error .malformed else singleFrom (heldBreak g.char held) rest
    else if g.char = '\'' then
      match rest with
      | next :: more =>
        if next.char = '\'' then
          (Scanned.after (held.chars ++ ['\''])) <$> singleFrom .nothing more
        else .ok (held.chars, rest)
      | [] => .ok (held.chars, rest)
    else (Scanned.after (held.chars ++ [g.char])) <$> singleFrom .nothing rest

-- Where the reader of a scalar in double quotes stands: in its text, after a backslash, or before
-- the last `left` digits of a character code.
inductive DoubleState where
  | text (held : Held)
  | escape
  | code (left value : Nat)
deriving DecidableEq, Repr

-- An escape may stand for half of a pair of units, so that the text comes in pieces.
def doubleFrom : DoubleState → List Glyph → Except Fault (Scanned Text.Piece)
  | _, [] => .error .malformed
  | .text held, g :: rest =>
    if g.char = ' ' ∨ g.char = '\t' then doubleFrom (.text (held.withBlank g.char)) rest
    else if isBreak g.char then
      if atDocumentMarker rest then .error .malformed
      else match held with
        | .joined => (Scanned.after [.char (breakChar g.char)]) <$> doubleFrom (.text .joined) rest
        | _ => doubleFrom (.text (heldBreak g.char held)) rest
    else if g.char = '"' then .ok (Text.pieces held.chars, rest)
    else if g.char = '\\' then (Scanned.after (Text.pieces held.chars)) <$> doubleFrom .escape rest
    else (Scanned.after (Text.pieces (held.chars ++ [g.char]))) <$> doubleFrom (.text .nothing) rest
  | .escape, g :: rest =>
    match ofShortEscape? g.char, codeLength? g.char with
    | some c, _ => (Scanned.after [.char c]) <$> doubleFrom (.text .nothing) rest
    | none, some count => doubleFrom (.code (count - 1) 0) rest
    | none, none =>
      if isBreak g.char && !atDocumentMarker rest then doubleFrom (.text .joined) rest
      else .error .malformed
  | .code left value, g :: rest =>
    if isHex g.char then
      let value := value * 16 + digitValue g.char
      match left with
      | left + 1 => doubleFrom (.code left value) rest
      | 0 =>
        match Text.Piece.ofCode? value with
        | some piece => (Scanned.after [piece]) <$> doubleFrom (.text .nothing) rest
        | none => .error (.scalar (if value < 0x80000000 then .code else .codeTooLarge))
    else .error .malformed

/-! ## Block scalars -/

inductive Chomp where
  | strip
  | clip
  | keep
deriving DecidableEq, Repr

-- How a block scalar is read: folded or line by line, its end, and its indentation if stated.
structure BlockStyle where
  folded : Bool
  chomp : Chomp := .clip
  indent : Option Nat := none
deriving DecidableEq, Repr

def chompOf? (c : Char) : Option Chomp :=
  if c = '+' then some .keep else if c = '-' then some .strip else none

-- The indentation that a digit states; zero is refused.
def indentOf? (c : Char) : Option Nat :=
  if isDigit c && c != '0' then some (digitValue c) else none

-- The style after the sign and the digit that may stand in either order, and what follows them.
def blockStyle (folded : Bool) : List Glyph → BlockStyle × List Glyph
  | [] => ({ folded }, [])
  | a :: rest =>
    match chompOf? a.char, indentOf? a.char, rest with
    | some chomp, _, b :: more =>
      match indentOf? b.char with
      | some n => ({ folded, chomp, indent := some n }, more)
      | none => ({ folded, chomp }, rest)
    | some chomp, _, [] => ({ folded, chomp }, [])
    | none, some n, b :: more =>
      match chompOf? b.char with
      | some chomp => ({ folded, chomp, indent := some n }, more)
      | none => ({ folded, indent := some n }, rest)
    | none, some n, [] => ({ folded, indent := some n }, [])
    | none, none, _ => ({ folded }, a :: rest)

def skipRestOfLine (inComment : Bool) : List Glyph → Except Fault (List Glyph)
  | [] => .ok []
  | g :: rest =>
    if isBreak g.char then .ok rest
    else if inComment then skipRestOfLine true rest
    else if g.char = ' ' then skipRestOfLine false rest
    else if g.char = '#' then skipRestOfLine true rest
    else .error .malformed

-- The empty lines before a block scalar whose indentation is not stated: their line ends, the
-- widest run of spaces, and what follows.
def findIndent (widest : Nat) : List Glyph → List Char × Nat × List Glyph
  | [] => ([], widest, [])
  | g :: rest =>
    if g.char = ' ' then findIndent (max widest (g.spot.column + 1)) rest
    else if isBreak g.char then
      let (breaks, most, after) := findIndent widest rest
      (breakChar g.char :: breaks, most, after)
    else ([], widest, g :: rest)

-- Where the reader of a block scalar stands: in a line of it, or after `last`, the line end of such
-- a line, and the empty lines in `breaks`. `solid` says that the line does not begin with a blank.
inductive BlockState where
  | line (solid : Bool)
  | between (solid : Bool) (last : Option Char) (breaks : List Char)
deriving DecidableEq, Repr

def lineJoin (folded solid nextSolid : Bool) (last : Option Char) (breaks : List Char) : List Char :=
  (match last with
    | none => []
    | some c =>
      if folded && c == '\n' && solid && nextSolid then (if breaks = [] then [' '] else [])
      else [c]) ++ breaks

def lineTail (chomp : Chomp) (last : Option Char) (breaks : List Char) : List Char :=
  match chomp with
  | .strip => []
  | .clip => last.toList
  | .keep => last.toList ++ breaks

def blockFrom (style : BlockStyle) (indent : Nat) : BlockState → List Glyph → Scanned Char
  | .line _, [] => ([], [])
  | .between _ last breaks, [] => (lineTail style.chomp last breaks, [])
  | .line solid, g :: rest =>
    if isBreak g.char then
      blockFrom style indent (.between solid (some (breakChar g.char)) []) rest
    else (blockFrom style indent (.line solid) rest).after [g.char]
  | .between solid last breaks, g :: rest =>
    if g.char = ' ' ∧ g.spot.column < indent then
      blockFrom style indent (.between solid last breaks) rest
    else if isBreak g.char then
      blockFrom style indent (.between solid last (breaks ++ [breakChar g.char])) rest
    else if g.spot.column = indent then
      let nextSolid := g.char != ' ' && g.char != '\t'
      (blockFrom style indent (.line nextSolid) rest).after
        (lineJoin style.folded solid nextSolid last breaks ++ [g.char])
    else (lineTail style.chomp last breaks, g :: rest)

-- A block scalar after its first character, inside a block at column `floor` or further in.
def readBlock (folded : Bool) (floor : Nat) (gs : List Glyph) :
    Except Fault (Scanned Char) := do
  let (style, gs) := blockStyle folded gs
  if !(gs.head?.all fun g => g.char == ' ' || isBreak g.char) then .error .malformed
  let body ← skipRestOfLine false gs
  let least := max floor 1
  match style.indent with
  | some n => return blockFrom style (least + n - 1) (.between false none []) body
  | none =>
    let (breaks, widest, body) := findIndent 0 body
    return blockFrom style (max least widest) (.between false none breaks) body

end WireGraph.Yaml
