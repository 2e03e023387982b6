import WireGraph.Document.Value
import WireGraph.Number.Shortest

/-!
# Entries

The entries of a mapping under distinct keys, in the order in which the keys first came. Two keys
are the same when they have the same value: truth values and numbers are compared as numbers, and
times of day with an offset by the instant they name.

Main statement: storing under the key that is asked for gives the entry that was stored.
-/

namespace WireGraph.Document

-- A number as a key: a whole number times a power of two, or one of the three others.
inductive KeyNumber where
  | exact (mantissa exponent : Int)
  | infinite (negative : Bool)
  | undefined
deriving DecidableEq, Repr

def KeyNumber.ofFloat (x : Float) : KeyNumber :=
  if x.isNaN then .undefined
  else if x.isInf then .infinite (x < 0)
  else
    let (mantissa, exponent, _) := Number.split x.abs
    .exact (if x < 0 then -mantissa else mantissa) exponent

def Scalar.keyNumber? : Scalar → Option KeyNumber
  | .flag b => some (.exact (if b then 1 else 0) 0)
  | .int i => some (.exact i 0)
  | .float x => some (.ofFloat x)
  | _ => none

-- Whether two numbers are equal; the one with the larger power of two is brought down to the other.
def KeyNumber.same : KeyNumber → KeyNumber → Bool
  | .exact m e, .exact n f =>
    if e ≤ f then m == n * Int.pow 2 (f - e).toNat else m * Int.pow 2 (e - f).toNat == n
  | a, b => a == b

def Stamp.dayNumber (s : Stamp) : Int :=
  let year : Int := if s.month ≤ 2 then s.year - 1 else s.year
  let month : Int := if s.month ≤ 2 then s.month + 9 else s.month - 3
  365 * year + year / 4 - year / 100 + year / 400 + (153 * month + 2) / 5 + s.day

def Stamp.minuteNumber (s : Stamp) (c : Clock) (offset : Int) : Int :=
  (s.dayNumber * 24 + c.hour) * 60 + c.minute - offset

def Stamp.same (s t : Stamp) : Bool :=
  match s.clock, t.clock with
  | some c, some d =>
    match c.offset, d.offset with
    | some o, some p =>
      s.minuteNumber c o == t.minuteNumber d p && c.second == d.second && c.micro == d.micro
    | _, _ => s == t
  | _, _ => s == t

def sameKey (a b : Scalar) : Bool :=
  match a.keyNumber?, b.keyNumber? with
  | some m, some n => m.same n
  | some _, none => false
  | none, some _ => false
  | none, none =>
    match a, b with
    | .null, .null => true
    | .text s, .text t => s == t
    | .broken s, .broken t => s == t
    | .stamp s, .stamp t => s.same t
    | .bytes s, .bytes t => s == t
    | _, _ => false

abbrev Entries := List (Scalar × Value)

-- Stores a value under a key: in the place of the key when it is present, at the end otherwise.
def putEntry (key : Scalar) (value : Value) : Entries → Entries
  | [] => [(key, value)]
  | (k, v) :: rest => if sameKey k key then (k, value) :: rest else (k, v) :: putEntry key value rest

-- The entries with each key once, at its first place and with its last value.
def putAll (entries : Entries) : Entries :=
  entries.foldl (fun table e => putEntry e.1 e.2 table) []

def putKeys (keys : List Scalar) : List Scalar :=
  keys.foldl (fun done key => if done.any (sameKey · key) then done else done ++ [key]) []

@[simp] theorem sameKey_text (s t : String) : sameKey (.text s) (.text t) = (s == t) := rfl

@[simp] theorem field?_putEntry_self (name : String) (value : Value) (entries : Entries) :
    field? name (putEntry (.text name) value entries) = some value := by
  induction entries with
  | nil => simp [putEntry, field?]
  | cons e rest ih =>
    obtain ⟨k, v⟩ := e
    cases k with
    | text s => by_cases h : s = name <;> simp [putEntry, field?, h, ih]
    | _ => simp [putEntry, field?, sameKey, Scalar.keyNumber?, ih]

end WireGraph.Document
