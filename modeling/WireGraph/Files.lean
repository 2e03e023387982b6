import WireGraph.Document.Inline
import WireGraph.Text.Bytes

/-!
# Files

A small tree of directories and text files, and the few operations on it that loading and saving
need. Every operation is refused with the cause and the path that it was asked for. The tree lies
inside directories of which nothing is known but that they are there.

An operation that fails may have done a part of its work by then, so that it answers with the tree
as it left it beside the cause.
-/

namespace WireGraph

-- A path: whether it starts at the root, and its names in order. Empty names and single dots are
-- dropped when a path is read; double dots stay.
structure Path where
  rooted : Bool := false
  names : List String := []
deriving DecidableEq, Repr, Inhabited

namespace Path

def ofText (text : String) : Path :=
  { rooted := text.startsWith "/"
    names := (text.splitOn "/").filter fun name => name != "" && name != "." }

-- The text of a path; the empty path is a dot.
def text (p : Path) : String :=
  let joined := "/".intercalate p.names
  if p.rooted then "/" ++ joined else if p.names = [] then "." else joined

def parent (p : Path) : Path := { p with names := p.names.dropLast }

def rootName : String := "/"

def upName : String := ".."

-- The directory where a path begins: the top of the tree at hand, or of the one above all.
def base (p : Path) : List String := if p.rooted then [rootName] else []

-- The directory that holds the directory `here`. One above the top of the tree at hand is known by
-- the way to it; nothing is above the tree above all.
def above (here : List String) : List String :=
  if here.all (· == upName) then upName :: here
  else if here = [rootName] then here
  else here.dropLast

def join (p q : Path) : Path := if q.rooted then q else { p with names := p.names ++ q.names }

-- Whether a name in the path holds the character that ends every name, so that nothing can have it.
def isUnnameable (p : Path) : Bool := p.names.any fun name => name.contains (Char.ofNat 0)

def byteLimit : Nat := 4096

def nameByteLimit : Nat := 255

end Path

inductive FileError where
  | missing (path : Path)
  | occupied (path : Path)
  | notDirectory (path : Path)
  | isDirectory (path : Path)
  | nameTooLong (path : Path)
  | full
  | unopenable
  | unmakeable
deriving DecidableEq, Repr

def FileError.reason : FileError → String
  | .missing path => "[Errno 2] No such file or directory: " ++ Document.quoted path.text
  | .occupied path => "[Errno 17] File exists: " ++ Document.quoted path.text
  | .notDirectory path => "[Errno 20] Not a directory: " ++ Document.quoted path.text
  | .isDirectory path => "[Errno 21] Is a directory: " ++ Document.quoted path.text
  | .nameTooLong path => "[Errno 36] File name too long: " ++ Document.quoted path.text
  | .full => "[Errno 28] No space left on device"
  | .unopenable => "embedded null byte"
  | .unmakeable => "mkdir: embedded null character in path"

def FileError.isOfPath : FileError → Bool
  | .unopenable | .unmakeable => true
  | _ => false

-- The text files of a tree by their names from the top, and its directories besides the top. The disk
-- gives out at the places in `limits` after so many characters of a text; everywhere else it takes any
-- text.
structure FileTree where
  files : List (List String × String) := []
  directories : List (List String) := []
  limits : List (List String × Nat) := []
deriving DecidableEq, Repr, Inhabited

inductive Place where
  | directory
  | file (names : List String) (text : String)
  | vacant (names : List String)
  | behindFile
  | nowhere
  | tooLong
deriving DecidableEq, Repr

namespace FileTree

def file? (t : FileTree) (names : List String) : Option String :=
  (t.files.find? fun f => f.1 == names).map (·.2)

def hasDirectory (t : FileTree) (names : List String) : Bool :=
  names.all (· == Path.upName) || names == [Path.rootName] || t.directories.contains names

def follow (t : FileTree) (here : List String) : List String → Place
  | [] => .directory
  | name :: rest =>
    if name = Path.upName then t.follow (Path.above here) rest
    else if Path.nameByteLimit < Text.byteLength name then .tooLong
    else
      let next := here ++ [name]
      if t.hasDirectory next then t.follow next rest
      else match t.file? next with
        | some text => if rest = [] then .file next text else .behindFile
        | none => if rest = [] then .vacant next else .nowhere

def locate (t : FileTree) (path : Path) : Place :=
  if Path.byteLimit ≤ Text.byteLength path.text then .tooLong
  else t.follow path.base path.names

def holds (t : FileTree) (path : Path) : Except FileError Bool :=
  if path.isUnnameable then .ok false
  else match t.locate path with
    | .directory => .ok true
    | .file _ _ => .ok true
    | .tooLong => .error (.nameTooLong path)
    | _ => .ok false

def read (t : FileTree) (path : Path) : Except FileError String :=
  if path.isUnnameable then .error .unopenable
  else match t.locate path with
    | .directory => .error (.isDirectory path)
    | .file _ text => .ok text
    | .behindFile => .error (.notDirectory path)
    | .vacant _ => .error (.missing path)
    | .nowhere => .error (.missing path)
    | .tooLong => .error (.nameTooLong path)

-- The tree with `text` as the file under these names, instead of what it held.
def put (t : FileTree) (names : List String) (text : String) : FileTree :=
  { t with
    files :=
      if (t.file? names).isSome then t.files.map fun f => if f.1 == names then (f.1, text) else f
      else t.files ++ [(names, text)] }

def limit? (t : FileTree) (names : List String) : Option Nat := t.limits.lookup names

-- Writes a text to a file that has been opened, and so emptied or made. Where the disk gives out, the
-- file is left with what was written until then.
def fill (t : FileTree) (names : List String) (text : String) : Except FileError Unit × FileTree :=
  match t.limit? names with
  | some n =>
    if n < text.length then (.error .full, t.put names (String.ofList (text.toList.take n)))
    else (.ok (), t.put names text)
  | none => (.ok (), t.put names text)

def write (t : FileTree) (path : Path) (text : String) : Except FileError Unit × FileTree :=
  if path.isUnnameable then (.error .unopenable, t)
  else match t.locate path with
    | .directory => (.error (.isDirectory path), t)
    | .file names _ => t.fill names text
    | .vacant names => t.fill names text
    | .behindFile => (.error (.notDirectory path), t)
    | .nowhere => (.error (.missing path), t)
    | .tooLong => (.error (.nameTooLong path), t)

def addDirectory (t : FileTree) (path : Path) : Except FileError FileTree :=
  if path.isUnnameable then .error .unmakeable
  else match t.locate path with
    | .directory => .error (.occupied path)
    | .file _ _ => .error (.occupied path)
    | .vacant names => .ok { t with directories := t.directories ++ [names] }
    | .behindFile => .error (.notDirectory path)
    | .nowhere => .error (.missing path)
    | .tooLong => .error (.nameTooLong path)

-- A directory that could not be made is no fault where there is one already.
def addOrKeep (t : FileTree) (path : Path) : Except FileError Unit × FileTree :=
  match t.addDirectory path with
  | .ok grown => (.ok (), grown)
  | .error e => (if t.locate path = .directory then .ok () else .error e, t)

-- Makes a directory, after all those that are missing on the way to it; `reversed` holds the names
-- of the path, the last one first. What was made stays when a later one fails.
def makeAlong (t : FileTree) (rooted : Bool) (reversed : List String) :
    Except FileError Unit × FileTree :=
  let path : Path := { rooted, names := reversed.reverse }
  match t.addDirectory path, reversed with
  | .error (.missing _), _ :: rest =>
    match t.makeAlong rooted rest with
    | (.ok (), grown) => grown.addOrKeep path
    | (.error e, left) => (.error e, left)
  | _, _ => t.addOrKeep path

-- Makes a directory at `path` and at all its parents; one that exists is kept.
def makeDirectory (t : FileTree) (path : Path) : Except FileError Unit × FileTree :=
  t.makeAlong path.rooted path.names.reverse

-- Writes a text to `path`, after the directories above it are made.
def save (t : FileTree) (path : Path) (text : String) : Except FileError Unit × FileTree :=
  match t.makeDirectory path.parent with
  | (.ok (), grown) => grown.write path text
  | (.error e, left) => (.error e, left)

-- The tree that holds the given files and the directories above them; a file that has no place in
-- it is left out.
def ofFiles (files : List (String × String)) : FileTree :=
  files.foldl (fun t f =>
    match t.save (Path.ofText f.1) f.2 with
    | (.ok (), grown) => grown
    | (.error _, _) => t) {}

end FileTree

end WireGraph
