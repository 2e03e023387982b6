import WireGraph.Text.Bytes
import WireGraph.Yaml.Kind
import WireGraph.Yaml.Text

/-!
# Tags

A tag names the kind of a node. It is written in full between angle brackets, or as a handle and a
rest, where the handle stands for the beginning of the tag. A document can give meanings to handles
in directives before it.
-/

namespace WireGraph.Yaml

def isNameChar (c : Char) : Bool := c.isAlphanum || c == '-' || c == '_'

def tagMarks : List Char :=
  ['-', ';', '/', '?', ':', '@', '&', '=', '+', '$', ',', '_', '.', '!', '~', '*', '\'', '(', ')',
    '[', ']']

def isTagChar (c : Char) : Bool := c.isAlphanum || tagMarks.contains c

-- Whether a word ends here: at a space, at a line end or at the end of the text.
def atWordEnd : List Glyph → Bool
  | [] => true
  | g :: _ => g.char == ' ' || isBreak g.char

def unescaped (bytes : List UInt8) : Except Fault (List Char) :=
  match Text.ofBytes? bytes with
  | some s => .ok s.toList
  | none => .error .malformed

-- Where the reader of a tag stands: between characters, after a percent sign, or after the first of
-- the two digits that follow it.
inductive TagState where
  | between
  | percent
  | digit (high : Nat)
deriving DecidableEq, Repr

def tagFrom (bytes : List UInt8) : TagState → List Glyph → Except Fault (Scanned Char)
  | .between, [] => (fun cs => (cs, [])) <$> unescaped bytes
  | _, [] => .error .malformed
  | .between, g :: rest =>
    if g.char = '%' then tagFrom bytes .percent rest
    else if isTagChar g.char then do
      let cs ← unescaped bytes
      Scanned.after (cs ++ [g.char]) <$> tagFrom [] .between rest
    else (fun cs => (cs, g :: rest)) <$> unescaped bytes
  | .percent, g :: rest =>
    if isHex g.char then tagFrom bytes (.digit (digitValue g.char)) rest else .error .malformed
  | .digit high, g :: rest =>
    if isHex g.char then
      tagFrom (bytes ++ [UInt8.ofNat (high * 16 + digitValue g.char)]) .between rest
    else .error .malformed

-- The characters of a tag; there must be some.
def readTagText (gs : List Glyph) : Except Fault (String × List Glyph) := do
  let (cs, rest) ← tagFrom [] .between gs
  if cs = [] then .error .malformed
  return (String.ofList cs, rest)

def loneHandle : String := "!"

abbrev Handles := List (String × String)

def commonHandles : Handles := [(loneHandle, "!"), ("!!", tagRoot)]

def Handles.meaning (handles : Handles) (handle : String) : Except Fault String :=
  match handles.lookup handle with
  | some s => .ok s
  | none =>
    match commonHandles.lookup handle with
    | some s => .ok s
    | none => .error .malformed

def readHandle : List Glyph → Except Fault (String × List Glyph)
  | [] => .error .malformed
  | g :: rest =>
    if g.char != '!' then .error .malformed
    else if rest.head?.any fun next => next.char == ' ' then .ok (loneHandle, rest)
    else
      let (name, after) := rest.span fun g => isNameChar g.char
      match after with
      | [] => .error .malformed
      | mark :: after =>
        if mark.char = '!' then .ok ("!" ++ String.ofList (name.map (·.char)) ++ "!", after)
        else .error .malformed

-- The tag that says no more than that its node is no text for being quoted.
def openTag : String := "!"

def readTag (handles : Handles) (mark : Glyph) (rest : List Glyph) :
    Except Fault (String × List Glyph) := do
  let (tag, after) ←
    if rest.head?.any fun g => g.char == '<' then do
      let (tag, after) ← readTagText rest.tail
      if !(after.head?.any fun g => g.char == '>') then .error .malformed
      pure (tag, after.tail)
    else if atBlank rest then pure (openTag, rest)
    else do
      let word := rest.takeWhile fun g => g.char != ' ' && !isBreak g.char
      let (handle, after) ←
        if word.any fun g => g.char == '!' then readHandle (mark :: rest)
        else pure (loneHandle, rest)
      let (name, after) ← readTagText after
      let meaning ← handles.meaning handle
      pure (meaning ++ name, after)
  if atWordEnd after then .ok (tag, after) else .error .malformed

def scalarKind (tag : Option String) (plain : Bool) (text : String) : Kind :=
  match tag with
  | none => if plain then kindOf text else .text
  | some tag => if tag = openTag then kindOfAny text else .ofTag tag

def collectionKind (usual : Kind) : Option String → Kind
  | none => usual
  | some tag => if tag = openTag then usual else .ofTag tag

end WireGraph.Yaml
