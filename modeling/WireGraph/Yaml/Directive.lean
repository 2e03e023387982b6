import WireGraph.Yaml.Tag

/-!
# Directives

The lines before a document that begin with a percent sign. One states the version, which must be the
first, and others give meanings to the handles of tags; unknown ones are passed over.
-/

namespace WireGraph.Yaml

structure Directives where
  found : Bool := false
  versioned : Bool := false
  handles : Handles := []
deriving DecidableEq, Repr

def skipLine : List Glyph → List Glyph
  | [] => []
  | g :: rest => if isBreak g.char then rest else skipLine rest

def readCount (gs : List Glyph) : Except Fault (Nat × List Glyph) :=
  let (digits, rest) := gs.span fun g => isDigit g.char
  if digits = [] then .error .malformed else .ok (number 10 (digits.map (·.char)), rest)

-- The major number of a version; the minor one, behind a point, does not count.
def readVersion (gs : List Glyph) : Except Fault (Nat × List Glyph) := do
  let (major, rest) ← readCount (skipSpaces gs)
  if !(rest.head?.any fun g => g.char == '.') then .error .malformed
  let (_, rest) ← readCount rest.tail
  if atWordEnd rest then .ok (major, rest) else .error .malformed

def readMeaning (gs : List Glyph) : Except Fault ((String × String) × List Glyph) := do
  let (handle, rest) ← readHandle (skipSpaces gs)
  if !(rest.head?.any fun g => g.char == ' ') then .error .malformed
  let (meaning, rest) ← readTagText (skipSpaces rest)
  if atWordEnd rest then .ok ((handle, meaning), rest) else .error .malformed

-- A directive after its percent sign; the answer is what follows its line.
def readDirective (d : Directives) (gs : List Glyph) : Except Fault (Directives × List Glyph) := do
  let (name, rest) := gs.span fun g => isNameChar g.char
  let name := String.ofList (name.map (·.char))
  if name = "" || !atWordEnd rest then .error .malformed
  else if name = "YAML" then
    let (major, rest) ← readVersion rest
    let rest ← skipRestOfLine false rest
    if d.versioned || major != 1 then .error .malformed
    return ({ d with found := true, versioned := true }, rest)
  else if name = "TAG" then
    let ((handle, meaning), rest) ← readMeaning rest
    let rest ← skipRestOfLine false rest
    if (d.handles.lookup handle).isSome then .error .malformed
    return ({ d with found := true, handles := (handle, meaning) :: d.handles }, rest)
  else return ({ d with found := true }, skipLine rest)

def readDirectives :
    (limit : Nat) → Directives → List Glyph → Except Fault (Directives × List Glyph)
  | 0, _, _ => .error .malformed
  | limit + 1, d, gs =>
    match (skipGap false false gs).2 with
    | [] => .ok (d, [])
    | g :: rest =>
      if g.char = '%' ∧ g.spot.column = 0 then do
        let (d, rest) ← readDirective d rest
        readDirectives limit d rest
      else .ok (d, g :: rest)

end WireGraph.Yaml
