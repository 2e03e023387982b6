/-!
# Shortest decimal text

The decimal with the fewest digits that reads back as a given binary floating point number. A
positive number `m * 2 ^ q` owns the interval of reals that round to it; the answer is the point of
the coarsest decimal grid that has a point in that interval.
-/

namespace WireGraph.Number

structure Decimal where
  digits : Nat
  exponent : Int
deriving DecidableEq, Repr

structure Interval where
  low : Nat
  value : Nat
  high : Nat
  scale : Int
  closed : Bool

-- The interval of `mantissa * 2 ^ exponent`; below a power of two the lower half is half as wide.
def Interval.of (mantissa : Nat) (exponent : Int) (narrowBelow : Bool) : Interval :=
  { low := 4 * mantissa - (if narrowBelow then 1 else 2)
    value := 4 * mantissa
    high := 4 * mantissa + 2
    scale := exponent - 2
    closed := mantissa % 2 == 0 }

def Interval.onGrid (i : Interval) (e : Int) : Nat × Nat × Nat × Nat :=
  let up := Nat.pow 2 i.scale.toNat * Nat.pow 10 (-e).toNat
  (i.low * up, i.value * up, i.high * up, Nat.pow 10 e.toNat * Nat.pow 2 (-i.scale).toNat)

-- The point of the grid with unit `10 ^ e` in the interval that is nearest to its value; of two
-- equally near points the even one.
def Interval.gridPoint? (i : Interval) (e : Int) : Option Nat :=
  let (low, value, high, unit) := i.onGrid e
  let inside (k : Nat) : Bool :=
    if i.closed then low ≤ k * unit && k * unit ≤ high else low < k * unit && k * unit < high
  let k := value / unit
  if inside k then
    let below := value - k * unit
    let above := (k + 1) * unit - value
    if inside (k + 1) && (above < below || above == below && k % 2 == 1) then some (k + 1)
    else some k
  else if inside (k + 1) then some (k + 1)
  else none

-- The first grid, from `10 ^ e` down to `count` steps finer, that has a point in the interval.
def Interval.coarsest (i : Interval) (e : Int) : (count : Nat) → Option Decimal
  | 0 => none
  | count + 1 =>
    match i.gridPoint? e with
    | some k => some ⟨k, e⟩
    | none => i.coarsest (e - 1) count

def split (x : Float) : Nat × Int × Bool :=
  let bits : Nat := x.toBits.toNat
  let fraction : Nat := bits % Nat.pow 2 52
  let biased : Nat := bits / Nat.pow 2 52 % Nat.pow 2 11
  if biased = 0 then (fraction, -1074, false)
  else (fraction + Nat.pow 2 52, (biased : Int) - 1075, fraction == 0 && biased != 1)

def shortest (x : Float) : Decimal :=
  let (mantissa, exponent, narrowBelow) := split x
  ((Interval.of mantissa exponent narrowBelow).coarsest 309 700).getD ⟨0, 0⟩

-- Digits are written positionally while the point stands at most sixteen places from the first
-- digit or at most three zeros precede it; other numbers take a two-digit exponent.
def Decimal.text (d : Decimal) : String :=
  let digits := toString d.digits
  let point : Int := digits.length + d.exponent
  if -4 < point ∧ point ≤ 16 then
    if point ≤ 0 then "0." ++ "".pushn '0' (-point).toNat ++ digits
    else if d.exponent ≥ 0 then digits ++ "".pushn '0' d.exponent.toNat ++ ".0"
    else String.ofList (digits.toList.take point.toNat) ++ "."
      ++ String.ofList (digits.toList.drop point.toNat)
  else
    let first := String.ofList (digits.toList.take 1)
    let others := String.ofList (digits.toList.drop 1)
    let power := point - 1
    let size := toString power.natAbs
    first ++ (if others = "" then "" else "." ++ others)
      ++ (if power < 0 then "e-" else "e+") ++ "".pushn '0' (2 - size.length) ++ size

def floatText (x : Float) : String :=
  if x.isNaN then "nan"
  else if x.isInf then (if x < 0 then "-inf" else "inf")
  else
    let negative := x.toBits.toNat ≥ Nat.pow 2 63
    (if negative then "-" else "") ++ (if x == 0 then "0.0" else (shortest x.abs).text)

end WireGraph.Number
