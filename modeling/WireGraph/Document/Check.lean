import WireGraph.Document.Entries
import WireGraph.Document.Issue
import WireGraph.Role
import WireGraph.Text.Bytes
import WireGraph.Text.Case

/-!
# Checks

A check reads a value and gives either a result or all the issues of that value. Checks of several
fields are put side by side with `<*>`: the issues of every field are reported, in the order of the
fields.
-/

namespace WireGraph.Document

def Check (α : Type) := Except (List Issue) α

namespace Check

def ok {α : Type} (a : α) : Check α := Except.ok a

def fail {α : Type} (problem : Problem) : Check α := Except.error [⟨[], problem⟩]

-- Both checks; the issues of the first come first.
def both {α β : Type} : Check (α → β) → Check α → Check β
  | .ok f, .ok a => .ok (f a)
  | .ok _, .error issues => .error issues
  | .error issues, .ok _ => .error issues
  | .error first, .error second => .error (first ++ second)

instance : Applicative Check where
  pure := ok
  seq f a := both f (a ())

def under {α : Type} (hop : Hop) : Check α → Check α
  | .ok a => .ok a
  | .error issues => .error (issues.map fun i => { i with place := hop :: i.place })

end Check

-- A text, or bytes that are one. A record holds characters only, so that halves of pairs of units
-- are spelled out in it.
def text : Value → Check String
  | .scalar (.text s) => .ok s
  | .scalar (.broken pieces) => .ok (Text.spelled pieces)
  | .scalar (.bytes data) =>
    match Text.ofBytes? data with
    | some s => .ok s
    | none => .fail .brokenText
  | _ => .fail .notText

def textOrNull : Value → Check (Option String)
  | .scalar .null => .ok none
  | v => some <$> text v

def roleOfWord (s : String) : Check Role :=
  match Role.ofWord? s with
  | some r => .ok r
  | none => .fail .notRole

def role : Value → Check Role
  | .scalar (.text s) => roleOfWord s
  | .scalar (.broken _) => .fail .brokenText
  | .scalar (.bytes data) =>
    match Text.ofBytes? data with
    | some s => roleOfWord s
    | none => .fail .notRole
  | _ => .fail .notRole

def falseWords : List String := ["0", "off", "f", "false", "n", "no"]

def trueWords : List String := ["1", "on", "t", "true", "y", "yes"]

def flagOfWord (s : String) : Check Bool :=
  if falseWords.contains s.toLower then .ok false
  else if trueWords.contains s.toLower then .ok true
  else .fail .unreadableFlag

-- The truth value of a number: of zero or one. Other whole numbers of 64 bits cannot be read, and
-- larger ones are no truth values at all.
def flagOfNumber (i : Int) : Check Bool :=
  if i = 0 then .ok false
  else if i = 1 then .ok true
  else if -(Nat.pow 2 63 : Nat) ≤ i ∧ i < (Nat.pow 2 63 : Nat) then .fail .unreadableFlag
  else .fail .notFlag

-- The whole number of 64 bits that a binary number is equal to; the lowest one is not among them.
def wholeOf? (x : Float) : Option Int :=
  if x.floor == x && x.abs < Float.ofScientific (Nat.pow 2 63) false 0 then
    some (if x < 0 then -(x.abs.toUInt64.toNat : Int) else x.abs.toUInt64.toNat)
  else none

-- A truth value, a number equal to zero or one, or one of the words for them in any case. Other
-- words and other whole numbers of 64 bits cannot be read; everything else is no truth value at
-- all.
def flag : Value → Check Bool
  | .scalar (.flag b) => .ok b
  | .scalar (.int i) => flagOfNumber i
  | .scalar (.float x) =>
    match wholeOf? x with
    | some i => flagOfNumber i
    | none => .fail .notFlag
  | .scalar (.text s) => flagOfWord s
  | .scalar (.broken _) => .fail .brokenText
  | .scalar (.bytes data) =>
    match Text.ofBytes? data with
    | some s => flagOfWord s
    | none => .fail .unreadableFlag
  | _ => .fail .notFlag

def literal (expected : String) : Value → Check Unit
  | .scalar (.text s) => if s = expected then .ok () else .fail (.otherKind expected)
  | _ => .fail (.otherKind expected)

def itemsFrom {α : Type} (item : Value → Check α) : Nat → List Value → Check (List α)
  | _, [] => .ok []
  | index, v :: rest => List.cons <$> (item v).under (.item index) <*> itemsFrom item (index + 1) rest

def itemsOf? (v : Value) : Option (List Value) :=
  match v.opened with
  | .list items => some items
  | .set members => some (members.map .scalar)
  | _ => none

def listOf {α : Type} (item : Value → Check α) (v : Value) : Check (List α) :=
  match itemsOf? v with
  | some items => itemsFrom item 0 items
  | none => .fail .notList

def required {α : Type} (name : String) (check : Value → Check α) (entries : Entries) : Check α :=
  (match field? name entries with
    | some v => check v
    | none => .fail .missing).under (.field name)

def optional {α : Type} (name : String) (default : α) (check : Value → Check α)
    (entries : Entries) : Check α :=
  match field? name entries with
  | some v => (check v).under (.field name)
  | none => .ok default

-- A mapping whose fields pass; fields that are not asked for are ignored.
def recordOf {α : Type} (shape : Shape) (fields : Entries → Check α) (v : Value) : Check α :=
  match v.opened with
  | .mapping entries => fields entries
  | _ => .fail (.notRecord shape)

end WireGraph.Document
