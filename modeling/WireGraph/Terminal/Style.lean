import WireGraph.Terminal.Colour

/-!
# Styles

How a text is shown: its attributes, its colours and its link. A style is written in words in any
order; two ways to write it are the same when they come to the same words in the order of the
attributes.
-/

namespace WireGraph.Terminal

def attributeWords : List (String × List String) :=
  [("bold", ["bold", "b"]), ("dim", ["dim", "d"]), ("italic", ["italic", "i"]),
    ("underline", ["underline", "u"]), ("blink", ["blink"]), ("blink2", ["blink2"]),
    ("reverse", ["reverse", "r"]), ("conceal", ["conceal", "c"]), ("strike", ["strike", "s"]),
    ("underline2", ["underline2", "uu"]), ("frame", ["frame"]), ("encircle", ["encircle"]),
    ("overline", ["overline", "o"])]

def attributeOf? (word : String) : Option String :=
  (attributeWords.find? fun a => a.2.contains word).map (·.1)

-- A style. Of the attributes that are set, the one set last stands first.
structure Style where
  attributes : List (String × Bool) := []
  colour : Option String := none
  background : Option String := none
  link : Option String := none
deriving DecidableEq, Repr

namespace Style

def withAttribute (s : Style) (name : String) (on : Bool) : Style :=
  { s with attributes := (name, on) :: s.attributes }

-- The style that words describe on top of `s`; none if they describe no style.
def ofWords? (s : Style) : List String → Except Fault (Option Style)
  | [] => .ok (some s)
  | word :: rest =>
    let name := Text.lower word
    if name = "on" then
      match rest with
      | [] => .ok none
      | next :: rest => do
        match ← colourOf? next with
        | some colour => ofWords? { s with background := some colour } rest
        | none => return none
    else if name = "not" then
      match rest with
      | [] => .ok none
      | next :: rest =>
        match attributeOf? next with
        | some known => (s.withAttribute known false).ofWords? rest
        | none => .ok none
    else if name = "link" then
      match rest with
      | [] => .ok none
      | next :: rest => ofWords? { s with link := some next } rest
    else match attributeOf? name with
      | some known => (s.withAttribute known true).ofWords? rest
      | none => do
        match ← colourOf? name with
        | some colour => ofWords? { s with colour := some colour } rest
        | none => return none

def words (s : Style) : List String :=
  (attributeWords.flatMap fun a =>
      match s.attributes.lookup a.1 with
      | none => []
      | some on => [if on then a.1 else "not " ++ a.1])
    ++ s.colour.toList
    ++ (s.background.map fun colour => "on " ++ colour).toList
    ++ (s.link.map fun link => "link " ++ link).toList

def text (s : Style) : String := if s.words = [] then "none" else " ".intercalate s.words

end Style

-- The one way to write a style; what is no style stands for itself in lower case.
def styleName (cs : List Char) : Except Fault String :=
  let trimmed := String.ofList (Text.trim cs)
  if trimmed = "none" || cs = [] then .ok "none"
  else do
    match ← Style.ofWords? {} ((Text.words cs).map String.ofList) with
    | some style => return style.text
    | none => return Text.lower trimmed

end WireGraph.Terminal
