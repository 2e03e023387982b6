import WireGraph.Text.Code

/-!
# Escapes

How a character that cannot stand as it is, is written between double quotes: a backslash and a
letter for some, a backslash and the hexadecimal code for the others.
-/

namespace WireGraph.Yaml

-- The letters of the short escapes with the characters they stand for. A character with several
-- letters is written with the first.
def shortEscapes : List (Char × Char) :=
  [('0', Char.ofNat 0), ('a', Char.ofNat 7), ('b', Char.ofNat 8), ('t', '\t'), ('\t', '\t'),
    ('n', '\n'), ('v', Char.ofNat 11), ('f', Char.ofNat 12), ('r', '\r'), ('e', Char.ofNat 27),
    ('"', '"'), ('\\', '\\'), (' ', ' '), ('/', '/'), ('N', Char.ofNat 0x85),
    ('_', Char.ofNat 0xA0), ('L', Char.ofNat 0x2028), ('P', Char.ofNat 0x2029)]

def ofShortEscape? (letter : Char) : Option Char := shortEscapes.lookup letter

def shortEscape? (c : Char) : Option Char :=
  (shortEscapes.find? fun e => e.2 == c && e.1 != '\t' && e.1 != ' ' && e.1 != '/').map (·.1)

def codeLength? (letter : Char) : Option Nat :=
  if letter = 'x' then some 2 else if letter = 'u' then some 4 else if letter = 'U' then some 8
  else none

def upperDigits (count n : Nat) : List Char := (Text.hexDigits count n).map Char.toUpper

def codeEscape (c : Char) : List Char :=
  let n := c.toNat
  if n ≤ 0xFF then 'x' :: upperDigits 2 n
  else if n ≤ 0xFFFF then 'u' :: upperDigits 4 n
  else 'U' :: upperDigits 8 n

def escaped (c : Char) : List Char :=
  match shortEscape? c with
  | some letter => ['\\', letter]
  | none => '\\' :: codeEscape c

end WireGraph.Yaml
