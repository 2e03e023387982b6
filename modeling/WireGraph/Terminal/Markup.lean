import WireGraph.Terminal.Literal
import WireGraph.Terminal.Pictures
import WireGraph.Terminal.Style

/-!
# Markup

Messages for the terminal may hold style tags in square brackets, and pictures by their names. What
is shown is the text without the tags and with the pictures. A backslash before a bracket keeps it
from beginning a tag; a closing tag must close the last open tag of its style, or the last tag of all
when it names none. A tag may also tie an action to a text, whose arguments must be literals.
-/

namespace WireGraph.Terminal

inductive Piece where
  | shown (chars : List Char)
  | tag (inside : List Char)
deriving DecidableEq, Repr

def beginsTag (c : Char) : Bool := ('a' ≤ c && c ≤ 'z') || c == '#' || c == '/' || c == '@'

-- The characters before the next closing bracket, if no opening bracket comes first.
def upToClose : List Char → Option (List Char)
  | [] => none
  | c :: rest =>
    if c = ']' then some []
    else if c = '[' then none
    else (upToClose rest).map (c :: ·)

def tagInside? : List Char → Option (List Char)
  | [] => none
  | c :: rest => if beginsTag c then (upToClose rest).map (c :: ·) else none

def slashes (n : Nat) : List Char := List.replicate n '\\'

-- The pieces of a message. `skip` characters belong to a tag already read, `before` holds the
-- characters since the last tag, the last one first, and `held` backslashes came after them. Two
-- backslashes before a tag stand for one, and one alone makes it no tag.
def pieces (skip : Nat) (before : List Char) (held : Nat) : List Char → List Piece
  | [] => [.shown (before.reverse ++ slashes held)]
  | c :: rest =>
    match skip with
    | skip + 1 => pieces skip before held rest
    | 0 =>
      if c = '\\' then pieces 0 before (held + 1) rest
      else
        let tag? := if c = '[' then tagInside? rest else none
        match tag? with
        | none => pieces 0 (c :: slashes held ++ before) 0 rest
        | some inside =>
          [.shown before.reverse, .shown (slashes (held / 2)),
              if held % 2 = 1 then .shown ('[' :: inside ++ [']']) else .tag inside]
            ++ pieces (inside.length + 1) [] 0 rest

def withoutEscapes : List Char → List Char
  | [] => []
  | c :: rest =>
    if c = '\\' && rest.head? == some '[' then withoutEscapes rest else c :: withoutEscapes rest

def isControl (c : Char) : Bool :=
  c.toNat == 7 || c.toNat == 8 || c.toNat == 11 || c.toNat == 12 || c.toNat == 13

def chunkText (cs : List Char) : List Char :=
  (withPictures 0 (withoutEscapes cs)).filter (!isControl ·)

structure OpenTag where
  name : String
  parameters : List Char
deriving DecidableEq, Repr

-- Whether the arguments of an action are literals. They stand in round brackets after its name; an
-- action that is no more than a name has none.
def isAction (parameters : List Char) : Bool :=
  let action := Text.trim parameters
  let arguments := action.dropWhile fun c => isWordChar c || c == '.'
  if arguments = [] then true
  else if arguments.head? = some '(' && arguments.getLast? = some ')' && !arguments.contains '\n' then
    isLiteral arguments
  else isLiteral action

def checkClosed (t : OpenTag) : Except Fault Unit :=
  if t.name.startsWith "@" && t.parameters != [] && !isAction t.parameters then .error .markup
  else .ok ()

-- Takes the tag that a closing tag closes out of those that are open, the last one first.
def close (name : List Char) (opened : List OpenTag) : Except Fault (OpenTag × List OpenTag) := do
  let wanted ← if name = [] then pure none else some <$> styleName name
  match opened.find? fun t => wanted.all (· == t.name) with
  | some t => return (t, opened.erase t)
  | none => .error .markup

def afterTag (opened : List OpenTag) (inside : List Char) : Except Fault (List OpenTag) := do
  let (name, rest) := inside.span (· != '=')
  match name with
  | '/' :: name =>
    let (closed, left) ← close (Text.trim name) opened
    checkClosed closed
    return left
  | _ =>
    let style ← styleName name
    return { name := style, parameters := rest.tail } :: opened

def shown (opened : List OpenTag) : List Piece → Except Fault (List Char)
  | [] => .ok []
  | .shown chars :: rest => (chunkText chars ++ ·) <$> shown opened rest
  | .tag inside :: rest => do
    let opened ← afterTag opened inside
    shown opened rest

def checkColours (inside : List Char) : Except Fault Unit := do
  let (name, rest) := inside.span (· != '=')
  if name.head? = some '/' then return
  let style ← styleName name
  discard (Style.ofWords? {} ((Text.words (style.toList ++ ' ' :: rest.tail)).map String.ofList))

def checkAll : List Piece → Except Fault Unit
  | [] => .ok ()
  | .shown _ :: rest => checkAll rest
  | .tag inside :: rest => do
    checkColours inside
    checkAll rest

-- What a message shows. Tags that do not fit together are found first.
def plain (message : String) : Except Fault (List Char) := do
  let found := pieces 0 [] 0 message.toList
  let cs ← shown [] found
  checkAll found
  return cs

end WireGraph.Terminal
