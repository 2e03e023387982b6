import WireGraph.CommandLine.Run

/-!
# The program

Gathers the files that the command line may look at, runs the command line on them, and writes the
directories and files that it made or changed.
-/

namespace WireGraph.CommandLine

def gather (tree : FileTree) (here : List String) : List String → IO FileTree
  | [] => return tree
  | name :: rest => do
    if name == Path.upName then return ← gather tree (Path.above here) rest
    let next := here ++ [name]
    let place := (← IO.currentDir) / "/".intercalate next
    if ← place.isDir then
      let known := tree.directories.contains next
      gather (if known then tree else { tree with directories := tree.directories ++ [next] }) next rest
    else if ← place.pathExists then
      if tree.files.any (·.1 == next) then return tree
      return { tree with files := tree.files ++ [(next, ← IO.FS.readFile place)] }
    else return tree

def candidates (words : List String) : List Path :=
  ("wires.yaml" :: "snapshots" :: "transaction.yaml" :: words.flatMap fun word =>
    word :: (splitOption word).2.toList).map .ofText

def writeChanges (before after : FileTree) : IO Unit := do
  let here ← IO.currentDir
  for names in after.directories do
    unless before.directories.contains names do
      IO.FS.createDirAll (here / "/".intercalate names)
  for (names, text) in after.files do
    if before.file? names != some text then
      IO.FS.writeFile (here / "/".intercalate names) text

end WireGraph.CommandLine

open WireGraph WireGraph.CommandLine in
def main (words : List String) : IO UInt32 := do
  let before ← (candidates words).foldlM (fun tree path => gather tree path.base path.names) {}
  let outcome := run words before
  IO.print outcome.output
  writeChanges before outcome.files
  if let some fault := outcome.fault then IO.eprintln fault.message
  return outcome.exitCode.toUInt32
