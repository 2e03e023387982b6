/-!
# Character codes

A code stands for a character, or for half of a pair of sixteen-bit units, which is no character. A
text that may have such halves in it is kept in pieces, each of them a character or a half.
-/

namespace WireGraph.Text

inductive Piece where
  | char (c : Char)
  | half (code : Nat)
deriving DecidableEq, Repr

def isHalf (n : Nat) : Bool := 0xD800 ≤ n && n < 0xE000

def Piece.ofCode? (n : Nat) : Option Piece :=
  if isHalf n then some (.half n)
  else if n.isValidChar then some (.char (Char.ofNat n))
  else none

def pieces (cs : List Char) : List Piece := cs.map .char

-- The characters of a text in pieces; none if a half is among them.
def whole? : List Piece → Option (List Char)
  | [] => some []
  | .char c :: rest => (whole? rest).map (c :: ·)
  | .half _ :: _ => none

@[simp] theorem pieces_nil : pieces [] = [] := rfl

@[simp] theorem pieces_append (cs ds : List Char) : pieces (cs ++ ds) = pieces cs ++ pieces ds :=
  List.map_append

@[simp] theorem whole_pieces (cs : List Char) : whole? (pieces cs) = some cs := by
  induction cs with
  | nil => rfl
  | cons c cs ih =>
    change (whole? (pieces cs)).map (c :: ·) = _
    rw [ih]
    rfl

def hexDigit (n : Nat) : Char := Nat.digitChar (n % 16)

def hexDigits : (count : Nat) → Nat → List Char
  | 0, _ => []
  | count + 1, n => hexDigits count (n / 16) ++ [hexDigit n]

@[simp] theorem length_hexDigits (count n : Nat) : (hexDigits count n).length = count := by
  induction count generalizing n with
  | zero => rfl
  | succ count ih => simp [hexDigits, ih]

def Piece.spelled : Piece → List Char
  | .char c => [c]
  | .half code => '\\' :: 'u' :: hexDigits 4 code

-- A text in characters alone: each half is spelled out by its code.
def spelled (pieces : List Piece) : String := String.ofList (pieces.flatMap Piece.spelled)

def Piece.shown : Piece → List Char
  | .char c => [c]
  | .half _ => List.replicate 3 (Char.ofNat 0xFFFD)

-- A text as a message can show it: nothing stands for a half.
def shown (pieces : List Piece) : String := String.ofList (pieces.flatMap Piece.shown)

end WireGraph.Text
