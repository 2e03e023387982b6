import WireGraph.Fault

/-!
# Data in base sixty-four

Each four digits of base sixty-four stand for three bytes. The last four may be two or three digits,
filled up with equals signs. Characters that are no digits are skipped.
-/

namespace WireGraph.Yaml

def sixBits? (c : Char) : Option Nat :=
  let n := c.toNat
  if 'A' ≤ c && c ≤ 'Z' then some (n - 'A'.toNat)
  else if 'a' ≤ c && c ≤ 'z' then some (n - 'a'.toNat + 26)
  else if '0' ≤ c && c ≤ '9' then some (n - '0'.toNat + 52)
  else if c = '+' then some 62
  else if c = '/' then some 63
  else none

-- The digits of a group of four that have been read: how many, and the number that they make.
structure Group where
  count : Nat := 0
  value : Nat := 0
deriving DecidableEq, Repr

def Group.push (g : Group) (digit : Nat) : Group × List UInt8 :=
  match g.count with
  | 0 => (⟨1, digit⟩, [])
  | 1 => (⟨2, digit % 16⟩, [UInt8.ofNat (g.value * 4 + digit / 16)])
  | 2 => (⟨3, digit % 4⟩, [UInt8.ofNat (g.value * 16 + digit / 4)])
  | _ => ({}, [UInt8.ofNat (g.value * 64 + digit)])

-- The bytes of the rest of the digits, after `pads` equals signs in a row. The group is over when
-- the equals signs fill it up.
def bytesFrom (g : Group) (pads : Nat) : List Char → Except Fault (List UInt8)
  | [] => if g.count = 0 then .ok [] else .error .malformed
  | c :: rest =>
    if c = '=' then
      if 2 ≤ g.count ∧ 4 ≤ g.count + (pads + 1) then .ok [] else bytesFrom g (pads + 1) rest
    else match sixBits? c with
      | none => bytesFrom g pads rest
      | some digit => (g.push digit).2.append <$> bytesFrom (g.push digit).1 0 rest

-- The data that a text holds; only basic characters may stand in it.
def binaryValue (s : String) : Except Fault (List UInt8) :=
  if s.toList.all (·.toNat < 128) then bytesFrom {} 0 s.toList else .error .malformed

end WireGraph.Yaml
