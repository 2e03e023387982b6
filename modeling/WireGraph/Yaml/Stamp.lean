import WireGraph.Fault
import WireGraph.Yaml.Numeral

/-!
# Dates

A date is written with its year, month and day between dashes, and possibly a time of day with an
offset. Without a tag it is a date only when it has a time of day, or two digits for the month and
two for the day.
-/

namespace WireGraph.Yaml

open Document (Clock Stamp)

def takeTwo : List Char → Option (Nat × List Char)
  | a :: b :: rest =>
    if !isDigit a then none
    else if isDigit b then some (number 10 [a, b], rest)
    else some (number 10 [a], b :: rest)
  | [a] => if isDigit a then some (number 10 [a], []) else none
  | [] => none

def takePair : List Char → Option (Nat × List Char)
  | a :: b :: rest => if isDigit a && isDigit b then some (number 10 [a, b], rest) else none
  | _ => none

def takeMark (mark : Char) : List Char → Option (List Char)
  | c :: rest => if c = mark then some rest else none
  | [] => none

def skipBlanks (cs : List Char) : List Char := cs.dropWhile fun c => c == ' ' || c == '\t'

def takeTimeMark : List Char → Option (List Char)
  | [] => none
  | c :: rest =>
    if c = 'T' || c = 't' then some rest
    else if c = ' ' || c = '\t' then some (skipBlanks rest)
    else none

def millionths (digits : List Char) : Nat :=
  number 10 ((digits ++ ['0', '0', '0', '0', '0', '0']).take 6)

-- The offset at the end of a time of day: none, the letter for zero, or hours and minutes.
def readOffset (cs : List Char) : Option (Option Int) :=
  match skipBlanks cs with
  | [] => if cs = [] then some none else none
  | ['Z'] => some (some 0)
  | sign :: rest =>
    if sign = '+' || sign = '-' then do
      let (hours, rest) ← takeTwo rest
      let minutes ← match rest with
        | [] => some 0
        | ':' :: more => do
          let (minutes, rest) ← takePair more
          if rest = [] then some minutes else none
        | _ => none
      let total : Int := hours * 60 + minutes
      some (some (if sign = '-' then -total else total))
    else none

def readClock (cs : List Char) : Option Clock := do
  let (hour, cs) ← takeTwo cs
  let cs ← takeMark ':' cs
  let (minute, cs) ← takePair cs
  let cs ← takeMark ':' cs
  let (second, cs) ← takePair cs
  let (fraction, cs) := match cs with
    | '.' :: rest => rest.span isDigit
    | _ => ([], cs)
  let offset ← readOffset cs
  return { hour, minute, second, micro := millionths fraction, offset }

-- A date, possibly with a time of day; the numbers are not checked.
def readStamp (cs : List Char) : Option Stamp := do
  let (century, cs) ← takePair cs
  let (yearOf, cs) ← takePair cs
  let year := century * 100 + yearOf
  let cs ← takeMark '-' cs
  let (month, cs) ← takeTwo cs
  let cs ← takeMark '-' cs
  let (day, cs) ← takeTwo cs
  match cs with
  | [] => return { year, month, day }
  | _ =>
    let cs ← takeTimeMark cs
    let clock ← readClock cs
    return { year, month, day, clock := some clock }

def fullDateLength : Nat := 10

def isPlainStamp (cs : List Char) : Bool :=
  match readStamp cs with
  | some stamp => stamp.clock.isSome || cs.length == fullDateLength
  | none => false

def isLeapYear (year : Nat) : Bool := year % 4 == 0 && (year % 100 != 0 || year % 400 == 0)

def daysIn (year month : Nat) : Nat :=
  if month = 2 then (if isLeapYear year then 29 else 28)
  else if month = 4 || month = 6 || month = 9 || month = 11 then 30 else 31

def checkClock (c : Clock) : Except Fault Unit :=
  if 24 ≤ c.hour then .error (.scalar .hour)
  else if 60 ≤ c.minute then .error (.scalar .minute)
  else if 60 ≤ c.second then .error (.scalar .second)
  else .ok ()

def checkDay (s : Stamp) : Except Fault Unit :=
  if s.year = 0 then .error (.scalar (.year s.year))
  else if s.month = 0 || 12 < s.month then .error (.scalar .month)
  else if s.day = 0 || daysIn s.year s.month < s.day then .error (.scalar .day)
  else .ok ()

def checkOffset (minutes : Int) : Except Fault Unit :=
  if minutes.natAbs < 24 * 60 then .ok () else .error (.scalar (.offset minutes))

-- A date whose numbers are in range; the offset is looked at first.
def checkStamp (s : Stamp) : Except Fault Stamp := do
  match s.clock with
  | none => checkDay s
  | some c =>
    match c.offset with
    | none => pure ()
    | some minutes => checkOffset minutes
    checkDay s
    checkClock c
  return s

-- The date that a text is tagged as; a line end may follow it.
def stampValue (s : String) : Except Fault Stamp :=
  match readStamp (withoutLastBreak s.toList) with
  | some stamp => checkStamp stamp
  | none => .error (.scalar .noStamp)

end WireGraph.Yaml
