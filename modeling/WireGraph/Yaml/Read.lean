import WireGraph.Yaml.Directive
import WireGraph.Yaml.Value

/-!
# Reading YAML

A text is read from left to right into one node. Columns nest blocks: the content of an entry stands
further in than the entry itself, and the next entry at its column. Inside brackets columns mean
nothing. A node becomes a key when a colon follows it on its line, not too far away.

The readers carry a depth limit that the length of the text exceeds, so it is never met.
-/

namespace WireGraph.Yaml

-- What is left to read, the names of the nodes that began so far, and the meanings of handles.
structure Feed where
  rest : List Glyph
  names : List String := []
  handles : Handles := []
deriving Repr, Inhabited

structure Props where
  anchor : Option String := none
  tag : Option String := none
deriving DecidableEq, Repr

def nameEnds : List Char := ['?', ':', ',', ']', '}', '%', '@', Char.ofNat 0x60]

def readName (gs : List Glyph) : Except Fault (String × List Glyph) :=
  let (name, rest) := gs.span fun g => isNameChar g.char
  if name = [] then .error .malformed
  else if atBlank rest || rest.head?.any fun g => nameEnds.contains g.char then
    .ok (String.ofList (name.map (·.char)), rest)
  else .error .malformed

namespace Feed

def move (f : Feed) (rest : List Glyph) : Feed := { f with rest }

-- Takes note that the node of `props` begins; each name is given once.
def declare (f : Feed) (props : Props) : Except Fault Feed :=
  match props.anchor with
  | none => .ok f
  | some name =>
    if f.names.contains name then .error .malformed else .ok { f with names := name :: f.names }

end Feed

-- Reads an anchor or a tag into `props`; none if neither stands here.
def readProp (props : Props) (feed : Feed) : Except Fault (Option (Props × Feed)) :=
  match feed.rest with
  | [] => .ok none
  | g :: rest =>
    if g.char = '&' then do
      let (name, rest) ← readName rest
      if props.anchor.isSome then .error .malformed
      return some ({ props with anchor := some name }, feed.move rest)
    else if g.char = '!' then do
      let (tag, rest) ← readTag feed.handles g rest
      if props.tag.isSome then .error .malformed
      return some ({ props with tag := some tag }, feed.move rest)
    else .ok none

def wrapped {α : Type} (props : Props) (feed : Feed) (make : α → Node)
    (content : Feed → Except Fault (α × Feed)) : Except Fault (Node × Feed) := do
  let feed ← feed.declare props
  let (a, feed) ← content feed
  match props.anchor with
  | none => return (make a, feed)
  | some name => return (.anchored name (make a), feed)

def scalarNode (props : Props) (plain : Bool) (cs : List Char) : Node :=
  let text := String.ofList cs
  .scalar (scalarKind props.tag plain text) text

def quotedNode (props : Props) (pieces : List Text.Piece) : Node :=
  match Text.whole? pieces with
  | some cs => scalarNode props false cs
  | none => .broken (scalarKind props.tag false (Text.spelled pieces)) pieces

def sequenceNode (props : Props) (items : List Node) : Node :=
  .sequence (collectionKind .list props.tag) items

def mappingNode (props : Props) (entries : List (Node × Node)) : Node :=
  .mapping (collectionKind .mapping props.tag) entries

def emptyNode (props : Props) (feed : Feed) : Except Fault (Node × Feed) :=
  wrapped props feed (scalarNode props true) fun feed => .ok ([], feed)

-- Reads a scalar on one or more lines, or a reference; none if neither begins here.
def readScalar (flow : Bool) (floor : Nat) (props : Props) (feed : Feed) :
    Except Fault (Option (Node × Feed)) :=
  match feed.rest with
  | [] => .ok none
  | g :: rest =>
    let scanned {α : Type} (make : List α → Node) (s : Except Fault (Scanned α)) :
        Except Fault (Option (Node × Feed)) :=
      some <$> wrapped props feed make fun feed =>
        (fun s : Scanned α => (s.1, feed.move s.2)) <$> s
    if g.char = '*' then do
      let (name, rest) ← readName rest
      if props ≠ {} ∨ !feed.names.contains name then .error .malformed
      return some (.reference name, feed.move rest)
    else if g.char = '\'' then scanned (scalarNode props false) (singleFrom .nothing rest)
    else if g.char = '"' then scanned (quotedNode props) (doubleFrom (.text .nothing) rest)
    else if beginsPlain flow g rest then
      scanned (scalarNode props true) (.ok (plainFrom flow floor .nothing (g :: rest)))
    else .ok none

def keyReach : Nat := 1024

def afterKey? (flow : Bool) (start : Spot) (gs : List Glyph) : Option (List Glyph) :=
  match skipSpaces gs with
  | g :: rest =>
    if g.char == ':' && (flow || atBlank rest) && g.spot.line == start.line
        && g.spot.index ≤ start.index + keyReach then some rest
    else none
  | [] => none

def spotOf (gs : List Glyph) : Spot := (gs.head?.map (·.spot)).getD {}

-- The anchor and tag that stand here on one line, in either order.
def readProps (feed : Feed) : Except Fault (Props × Feed) := do
  match ← readProp {} feed with
  | none => return ({}, feed)
  | some (props, feed) =>
    let feed := feed.move (skipSpaces feed.rest)
    match ← readProp props feed with
    | none => return (props, feed)
    | some (props, feed) => return (props, feed.move (skipSpaces feed.rest))

/-! ## Flow collections -/

def atChar (c : Char) : List Glyph → Bool
  | g :: _ => g.char == c
  | [] => false

def atFlowEnd (gs : List Glyph) : Bool := atChar ',' gs || atChar ']' gs || atChar '}' gs

-- What follows white space and comments; no document may begin or end inside brackets, and no
-- directive stand there.
def flowGap (gs : List Glyph) : Except Fault (List Glyph) :=
  let rest := (skipGap false false gs).2
  if atDocumentMarker rest then .error .malformed
  else match rest with
    | [] => .error .malformed
    | g :: _ => if g.char = '%' then .error .malformed else .ok rest

mutual

def flowNode : (limit : Nat) → Props → Feed → Except Fault (Node × Feed)
  | 0, _, _ => .error .malformed
  | limit + 1, props, feed => do
    let gs ← flowGap feed.rest
    let feed := feed.move gs
    match ← readProp props feed with
    | some (props, feed) => flowNode limit props feed
    | none =>
      if atChar '[' gs then
        wrapped props feed (sequenceNode props) fun feed =>
          flowItems limit true (feed.move gs.tail)
      else if atChar '\x7b' gs then
        wrapped props feed (mappingNode props) fun feed =>
          flowEntries limit true (feed.move gs.tail)
      else if atIndicator '-' gs then .error .malformed
      else match ← readScalar true 0 props feed with
        | some found => return found
        | none =>
          if props ≠ {} ∧ (atFlowEnd gs || atChar ':' gs) then emptyNode props feed
          else .error .malformed

-- Reads what a colon may introduce inside brackets: a node, or nothing.
def flowValue : (limit : Nat) → Feed → Except Fault (Node × Feed)
  | 0, _ => .error .malformed
  | limit + 1, feed => do
    let gs ← flowGap feed.rest
    if atFlowEnd gs then emptyNode {} (feed.move gs) else flowNode limit {} (feed.move gs)

-- Reads an entry of brackets after a question mark: a key, and a value if a colon follows.
def flowPair : (limit : Nat) → Feed → Except Fault ((Node × Node) × Feed)
  | 0, _ => .error .malformed
  | limit + 1, feed => do
    let gs ← flowGap feed.rest
    let (key, feed) ←
      if atChar ':' gs then emptyNode {} (feed.move gs) else flowValue limit (feed.move gs)
    let gs ← flowGap feed.rest
    if atChar ':' gs then
      let (value, feed) ← flowValue limit (feed.move gs.tail)
      return ((key, value), feed)
    else
      let (value, feed) ← emptyNode {} (feed.move gs)
      return ((key, value), feed)

-- Reads the rest of a flow sequence; between two items stands a comma. An item with a colon is a
-- mapping with one entry.
def flowItems : (limit : Nat) → (first : Bool) → Feed → Except Fault (List Node × Feed)
  | 0, _, _ => .error .malformed
  | limit + 1, first, feed => do
    let gs ← flowGap feed.rest
    if atChar ']' gs then return ([], feed.move gs.tail)
    else
      let gs ← if first then .ok gs
        else if atChar ',' gs then flowGap gs.tail else .error .malformed
      let feed := feed.move gs
      if atChar ']' gs then return ([], feed.move gs.tail)
      else
        let (item, feed) ←
          if atChar '?' gs then do
            let (pair, feed) ← flowPair limit (feed.move gs.tail)
            pure (mappingNode {} [pair], feed)
          else do
            let (item, feed) ← flowNode limit {} feed
            match afterKey? true (spotOf gs) feed.rest with
            | none => pure (item, feed)
            | some rest =>
              let (value, feed) ← flowValue limit (feed.move rest)
              pure (mappingNode {} [(item, value)], feed)
        let (items, feed) ← flowItems limit false feed
        return (item :: items, feed)

-- Reads the rest of a flow mapping; a key without a colon has no value.
def flowEntries :
    (limit : Nat) → (first : Bool) → Feed → Except Fault (List (Node × Node) × Feed)
  | 0, _, _ => .error .malformed
  | limit + 1, first, feed => do
    let gs ← flowGap feed.rest
    if atChar '\x7d' gs then return ([], feed.move gs.tail)
    else
      let gs ← if first then .ok gs
        else if atChar ',' gs then flowGap gs.tail else .error .malformed
      let feed := feed.move gs
      if atChar '\x7d' gs then return ([], feed.move gs.tail)
      else
        let (entry, feed) ←
          if atChar '?' gs then flowPair limit (feed.move gs.tail)
          else do
            let (key, feed) ← flowNode limit {} feed
            match afterKey? true (spotOf gs) feed.rest with
            | none =>
              let (value, feed) ← emptyNode {} feed
              pure ((key, value), feed)
            | some rest =>
              let (value, feed) ← flowValue limit (feed.move rest)
              pure ((key, value), feed)
        let (entries, feed) ← flowEntries limit false feed
        return (entry :: entries, feed)

end

/-! ## Blocks -/

-- Reads a key on one line with its colon; none if what stands here is no such key.
def readKey? (limit floor : Nat) (feed : Feed) : Except Fault (Option (Node × Feed)) := do
  let (props, inner) ← readProps feed
  let content ←
    if atChar '[' inner.rest || atChar '\x7b' inner.rest then some <$> flowNode limit props inner
    else match ← readScalar false floor props inner with
      | some found => pure (some found)
      | none => if props = {} then pure none else some <$> emptyNode props inner
  match content with
  | none => return none
  | some (node, after) =>
    return (afterKey? false (spotOf feed.rest) after.rest).map fun rest => (node, after.move rest)

def blockEnds (column : Nat) : List Glyph → Bool
  | [] => true
  | g :: rest => atDocumentMarker (g :: rest) || g.spot.column < column

mutual

-- Reads a node of a block. Its content stands at column `floor` or further in. A block may begin
-- here when `keyOk` holds or a line end comes first; where `seqOk` holds, a sequence may stand one
-- column less far in.
def blockNode :
    (limit : Nat) → (floor : Nat) → (keyOk seqOk : Bool) → Props → Feed → Except Fault (Node × Feed)
  | 0, _, _, _, _, _ => .error .malformed
  | limit + 1, floor, keyOk, seqOk, props, feed => do
    let (crossed, gs) := skipGap false false feed.rest
    let feed := feed.move gs
    let mayBegin := keyOk || crossed
    match gs with
    | [] => emptyNode props feed
    | g :: rest =>
      if atDocumentMarker gs then emptyNode props feed
      else if g.char = '%' ∧ g.spot.column = 0 then .error .malformed
      else if g.spot.column + 1 < floor then emptyNode props feed
      else if g.char = '|' ∨ g.char = '>' then
        wrapped props feed (scalarNode props false) fun feed =>
          (fun s : Scanned Char => (s.1, feed.move s.2)) <$> readBlock (g.char == '>') floor rest
      else if g.spot.column < floor then
        if atIndicator '-' gs && seqOk then
          wrapped props feed (sequenceNode props) fun feed =>
            blockItems limit g.spot.column true feed
        else emptyNode props feed
      else if atIndicator '-' gs then
        if mayBegin then
          wrapped props feed (sequenceNode props) fun feed =>
            blockItems limit g.spot.column false feed
        else .error .malformed
      else
        let isKey ←
          if !mayBegin then pure false
          else if atIndicator '?' gs then pure true
          else (·.isSome) <$> readKey? limit floor feed
        if isKey then
          wrapped props feed (mappingNode props) fun feed => blockEntries limit g.spot.column feed
        else match ← readProp props feed with
          | some (props, feed) => blockNode limit floor false seqOk props feed
          | none =>
            if g.char = '[' ∨ g.char = '\x7b' then flowNode limit props feed
            else match ← readScalar false floor props feed with
              | some found => return found
              | none => .error .malformed

-- Reads the entries of a block sequence at this column. One that stands at the column of a mapping
-- ends where the mapping goes on.
def blockItems :
    (limit : Nat) → (column : Nat) → (shared : Bool) → Feed → Except Fault (List Node × Feed)
  | 0, _, _, _ => .error .malformed
  | limit + 1, column, shared, feed => do
    let gs := (skipGap false false feed.rest).2
    let feed := feed.move gs
    if blockEnds column gs then return ([], feed)
    else if !(gs.head?.any fun g => g.spot.column == column) then .error .malformed
    else if atIndicator '-' gs then
      let (item, feed) ← blockNode limit (column + 1) true false {} (feed.move gs.tail)
      let (items, feed) ← blockItems limit column shared feed
      return (item :: items, feed)
    else if shared then return ([], feed)
    else .error .malformed

def blockEntries :
    (limit : Nat) → (column : Nat) → Feed → Except Fault (List (Node × Node) × Feed)
  | 0, _, _ => .error .malformed
  | limit + 1, column, feed => do
    let gs := (skipGap false false feed.rest).2
    let feed := feed.move gs
    if blockEnds column gs then return ([], feed)
    else if !(gs.head?.any fun g => g.spot.column == column) then .error .malformed
    else
      let (entry, feed) ←
        if atIndicator '?' gs then do
          let (key, feed) ← blockNode limit (column + 1) true true {} (feed.move gs.tail)
          let gs := (skipGap false false feed.rest).2
          let feed := feed.move gs
          if atIndicator ':' gs && gs.head?.any fun g => g.spot.column == column then
            let (value, feed) ← blockNode limit (column + 1) true true {} (feed.move gs.tail)
            pure ((key, value), feed)
          else
            let (value, feed) ← emptyNode {} feed
            pure ((key, value), feed)
        else match ← readKey? limit (column + 1) feed with
          | some (key, feed) => do
            let (value, feed) ← blockNode limit (column + 1) false true {} feed
            pure ((key, value), feed)
          | none => .error .malformed
      let (entries, feed) ← blockEntries limit column feed
      return (entry :: entries, feed)

end

/-! ## Documents -/

def limitFor (gs : List Glyph) : Nat := 2 * gs.length + 8

def checkEnd : (limit : Nat) → List Glyph → Except Fault Unit
  | 0, _ => .error .malformed
  | limit + 1, gs =>
    match (skipGap false false gs).2 with
    | [] => .ok ()
    | g :: rest =>
      if atMarker '.' (g :: rest) then checkEnd limit (rest.drop 2) else .error .malformed

-- Reads the only document of a text; an empty text has none.
def readDocument (gs : List Glyph) : Except Fault (Option Node) := do
  let limit := limitFor gs
  let (directives, gs) ← readDirectives limit {} gs
  if gs.isEmpty && !directives.found then return none
  else
    let (node, feed) ←
      if atMarker '-' gs then
        blockNode limit 0 false false {} { rest := gs.drop 3, handles := directives.handles }
      else if directives.found || atMarker '.' gs then .error .malformed
      else blockNode limit 0 true false {} { rest := gs }
    checkEnd limit feed.rest
    return some node

def unifyBreaks : List Char → List Char
  | [] => []
  | '\r' :: '\n' :: rest => '\n' :: unifyBreaks rest
  | '\r' :: rest => '\n' :: unifyBreaks rest
  | c :: rest => c :: unifyBreaks rest

-- The value of a text; that of a text without a document is null.
def read (text : String) : Except Fault Document.Value := do
  let gs ← glyphs (unifyBreaks text.toList)
  match ← readDocument gs with
  | none => return .null
  | some node => node.value

end WireGraph.Yaml
