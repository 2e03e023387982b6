import WireGraph.Terminal.Width
import WireGraph.Text.Blank

/-!
# Columns

A text in a column of limited width. Its lines are broken between words; a word that is wider than the
column is cut off, with three dots at its end.
-/

namespace WireGraph.Terminal

def tabStop : Nat := 8

def withoutTabs (column : Nat) : List Char → List Char
  | [] => []
  | c :: rest =>
    if c = '\t' then
      let blanks := tabStop - column % tabStop
      List.replicate blanks ' ' ++ withoutTabs (column + blanks) rest
    else c :: withoutTabs (column + charWidth c) rest

-- The words of a line, each with the white space after it and the first also with that before it.
-- `word` holds the characters since the last word, and `ended` says that its letters are over.
def wordsFrom (word : List Char) (ended : Bool) : List Char → List (List Char)
  | [] => [word]
  | c :: rest =>
    if Text.isSpace c then wordsFrom (word ++ [c]) (word.any (!Text.isSpace ·)) rest
    else if ended then word :: wordsFrom [c] false rest
    else wordsFrom (word ++ [c]) false rest

def words (line : List Char) : List (List Char) := wordsFrom [] false line

def wordWidth (word : List Char) : Nat := width (word.reverse.dropWhile Text.isSpace)

-- The lines that words fill. `line` holds those on the line so far, and `used` is its width.
def fill (limit : Nat) (line : List Char) (used : Nat) : List (List Char) → List (List Char)
  | [] => [line]
  | word :: rest =>
    if used + wordWidth word ≤ limit then fill limit (line ++ word) (used + width word) rest
    else if line = [] then fill limit word (width word) rest
    else line :: fill limit word (width word) rest

def withoutExcess (limit : Nat) (line : List Char) : List Char :=
  let blanks := line.length - (line.reverse.dropWhile Text.isSpace).length
  line.take (line.length - min blanks (line.length - limit))

-- Looks for the beginning of a text that takes `total` cells, between two lengths by halving. A
-- character of two cells that goes one too far becomes a blank.
def searchCut (total : Nat) (cs : List Char) : (limit start stop : Nat) → List Char
  | 0, start, _ => cs.take start
  | limit + 1, start, stop =>
    let middle := (start + stop) / 2
    let before := cs.take (middle + 1)
    let cells := width before
    if cells = total + 1 ∧ before.getLast?.any (charWidth · == 2) then before.dropLast ++ [' ']
    else if cells = total then before
    else if total < cells then searchCut total cs limit start middle
    else searchCut total cs limit middle stop

def cut (total : Nat) (cs : List Char) : List Char :=
  if total = 0 then [] else searchCut total cs (cs.length + 1) 0 cs.length

def ellipsis : Char := '…'

def clipped (limit : Nat) (line : List Char) : List Char :=
  if limit < width line then cut (limit - 1) line ++ [ellipsis] else line

def linesOf : List Char → List (List Char)
  | [] => [[]]
  | c :: rest =>
    if c = '\n' then [] :: linesOf rest
    else match linesOf rest with
      | line :: lines => (c :: line) :: lines
      | [] => [[c]]

def wrapped (limit : Nat) (cs : List Char) : List (List Char) :=
  (linesOf cs).flatMap fun line =>
    ((fill limit [] 0 (words (withoutTabs 0 line))).map (withoutExcess limit)).map (clipped limit)

-- The width of the widest line of a text; every character that ends a line in some script ends one
-- here.
def widest (cs : List Char) : Nat :=
  ((cs.splitBy fun a _ => !Text.isLineEnd a).map fun line =>
    width (line.filter (!Text.isLineEnd ·))).foldl max 0

def columnWidth (limit : Nat) (texts : List (List Char)) : Nat :=
  min limit ((texts.map widest).foldl max 0)

end WireGraph.Terminal
