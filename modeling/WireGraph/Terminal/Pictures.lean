import WireGraph.Terminal.PictureNames
import WireGraph.Text.Blank
import WireGraph.Text.Case

/-!
# Pictures by name

A picture can be written as its name between two colons. Behind the name, after a dash, it may be
said whether it is to be shown as text or in colour.
-/

namespace WireGraph.Terminal

def picture? (name : String) : Option (List Char) :=
  let start := name ++ " "
  (pictureLines.find? (·.startsWith start)).map (·.toList.drop start.length)

def presentations : List (List Char × Char) :=
  [("-emoji".toList, Char.ofNat 0xFE0F), ("-text".toList, Char.ofNat 0xFE0E)]

-- A name between colons: the name, what is said behind it, and how many characters it all takes
-- after the first colon.
structure PictureCode where
  name : List Char
  presentation : List Char
  length : Nat
deriving DecidableEq, Repr

-- The code that begins after a colon; `name` holds the letters read so far, the last one first. It
-- ends at the first colon, and no white space may stand in it.
def pictureCode? (name : List Char) : List Char → Option PictureCode
  | [] => none
  | c :: rest =>
    let ending := presentations.find? fun p => (p.1 ++ [':']).isPrefixOf (c :: rest)
    match ending with
    | some (said, mark) => some ⟨name.reverse, [mark], name.length + said.length + 1⟩
    | none =>
      if c = ':' then some ⟨name.reverse, [], name.length + 1⟩
      else if Text.isSpace c then none
      else pictureCode? (c :: name) rest

-- The text with the pictures instead of their names; `skip` characters belong to a name already
-- read. A name without a picture stays as it is.
def withPictures (skip : Nat) : List Char → List Char
  | [] => []
  | c :: rest =>
    match skip with
    | skip + 1 => withPictures skip rest
    | 0 =>
      if c != ':' then c :: withPictures 0 rest
      else match pictureCode? [] rest with
        | none => c :: withPictures 0 rest
        | some code =>
          match picture? (Text.lower (String.ofList code.name)) with
          | some picture => picture ++ code.presentation ++ withPictures code.length rest
          | none => c :: rest.take code.length ++ withPictures code.length rest

end WireGraph.Terminal
