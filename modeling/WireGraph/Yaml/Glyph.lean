import WireGraph.Fault

/-!
# Glyphs

The characters of a YAML text with their places in it. Where a character stands decides what it
means: its column nests blocks, and its line and index decide whether a colon after it makes it part
of a key.
-/

namespace WireGraph.Yaml

structure Spot where
  line : Nat := 0
  column : Nat := 0
  index : Nat := 0
deriving DecidableEq, Repr

structure Glyph where
  char : Char
  spot : Spot
deriving DecidableEq, Repr

-- A mark at the start of a file that takes no column.
def byteOrderMark : Char := Char.ofNat 0xFEFF

def nextLine : Char := Char.ofNat 0x85

def lineSeparator : Char := Char.ofNat 0x2028

def paragraphSeparator : Char := Char.ofNat 0x2029

def isBreak (c : Char) : Bool :=
  c == '\n' || c == nextLine || c == lineSeparator || c == paragraphSeparator

def breakChar (c : Char) : Char := if c = nextLine then '\n' else c

def isBlank (c : Char) : Bool := c == ' ' || c == '\t' || isBreak c

def Spot.after (p : Spot) (c : Char) : Spot :=
  if isBreak c then { line := p.line + 1, column := 0, index := p.index + 1 }
  else if c = byteOrderMark then { p with index := p.index + 1 }
  else { p with column := p.column + 1, index := p.index + 1 }

def glyphsFrom (p : Spot) : List Char → List Glyph
  | [] => []
  | c :: rest => ⟨c, p⟩ :: glyphsFrom (p.after c) rest

def isAllowed (c : Char) : Bool :=
  let n := c.toNat
  n == 9 || n == 10 || n == 13 || (32 ≤ n && n ≤ 126) || n == 0x85
    || (0xA0 ≤ n && n ≤ 0xFFFD) || 0x10000 ≤ n

def withoutMark : List Char → List Char
  | [] => []
  | c :: rest => if c = byteOrderMark then rest else c :: rest

-- The glyphs of a text; one character that is not allowed makes it malformed.
def glyphs (text : List Char) : Except Fault (List Glyph) :=
  if text.all isAllowed then .ok (glyphsFrom {} (withoutMark text)) else .error .malformed

def atBlank : List Glyph → Bool
  | [] => true
  | g :: _ => isBlank g.char

-- Whether three times `c` stand at the start of a line, and a blank or the end after them.
def atMarker (c : Char) : List Glyph → Bool
  | a :: b :: d :: rest =>
    a.spot.column == 0 && a.char == c && b.char == c && d.char == c && atBlank rest
  | _ => false

def atDocumentMarker (gs : List Glyph) : Bool := atMarker '-' gs || atMarker '.' gs

def atIndicator (c : Char) : List Glyph → Bool
  | g :: rest => g.char == c && atBlank rest
  | [] => false

-- Skips spaces, comments and line ends; the answer says whether a line end was among them.
def skipGap (inComment crossed : Bool) : List Glyph → Bool × List Glyph
  | [] => (crossed, [])
  | g :: rest =>
    if isBreak g.char then skipGap false true rest
    else if inComment then skipGap true crossed rest
    else if g.char = ' ' then skipGap false crossed rest
    else if g.char = '#' then skipGap true crossed rest
    else (crossed, g :: rest)

def skipSpaces : List Glyph → List Glyph
  | [] => []
  | g :: rest => if g.char = ' ' then skipSpaces rest else g :: rest

end WireGraph.Yaml
