import WireGraph.Batch
import WireGraph.CommandLine.Arguments
import WireGraph.Template
import WireGraph.Terminal.Markup
import WireGraph.Terminal.Wrap

/-!
# The command line

Four commands: `generate` writes a template as a snapshot file, `validate` reports on a snapshot,
`explain` prints its plan, and `save` runs a batch on it. Before a command is looked at, the settings
are loaded and the log level is checked.
-/

namespace WireGraph.CommandLine

inductive Command where
  | generate (template name : String) (directory : Path)
  | validate (file : Path)
  | explain (file : Path)
  | save (file : Path) (batch : Batch)
deriving Repr

inductive Verb where
  | generate
  | validate
  | explain
  | save
deriving DecidableEq, Repr

def Verb.ofWord? (word : String) : Option Verb :=
  if word = "generate" then some .generate
  else if word = "validate" then some .validate
  else if word = "explain" then some .explain
  else if word = "save" then some .save
  else none

def Verb.options : Verb → List String
  | .generate => ["--template", "--name", "--outdir"]
  | .validate => []
  | .explain => []
  | .save => ["--out", "--connect", "--remove"]

def pathOf? (word : String) : Option Path :=
  let path := Path.ofText word
  if path.isUnnameable then none else some path

-- The command that these arguments make of a verb; none if one is missing, one too many, or no path
-- where a path belongs.
def Verb.command? (v : Verb) (a : Arguments) : Option Command :=
  match v with
  | .generate => do
    let template ← a.last? "--template"
    let name := (a.last? "--name").getD "snapshot"
    let directory ← pathOf? ((a.last? "--outdir").getD "snapshots")
    if a.words = [] then some (.generate template name directory) else none
  | .validate => a.only? >>= fun word => .validate <$> pathOf? word
  | .explain => a.only? >>= fun word => .explain <$> pathOf? word
  | .save => do
    let file ← a.only? >>= pathOf?
    let out ← pathOf? ((a.last? "--out").getD "transaction.yaml")
    return .save file { pairs := a.all "--connect", removals := a.all "--remove", out }

-- What a run came to: its exit code, what it printed, the files after it, and the fault that was
-- not dealt with.
structure Outcome where
  exitCode : Nat := 0
  output : String := ""
  files : FileTree
  fault : Option Fault := none
deriving Repr

namespace Outcome

def failed (files : FileTree) (fault : Fault) : Outcome :=
  { exitCode := 1, files, fault := some fault }

def usage (files : FileTree) : Outcome := { exitCode := 2, files }

-- A run that printed a message; the message itself may be at fault.
def printed (files : FileTree) (exitCode : Nat) (message : String) : Outcome :=
  match Terminal.plain message with
  | .ok cs => { exitCode, output := String.ofList cs ++ "\n", files }
  | .error f => failed files f

end Outcome

def messageWidth : Nat := 67

def messageHeading : String := "Message"

-- One row of a report: the status of a line, and the line in a column of `width` cells.
def reportRow (width : Nat) (line : String) (message : List Char) : String :=
  "\n".intercalate
    (((if line.startsWith "OK:" then "OK" else "ERR") ++ " ")
      :: (Terminal.wrapped width message).map String.ofList)

-- Prints a report as a table of rows; the exit code tells the verdict.
def showReport (files : FileTree) (r : Report) : Outcome :=
  match r.messages.mapM Terminal.plain with
  | .error f => .failed files f
  | .ok messages =>
    let width := Terminal.columnWidth messageWidth (messageHeading.toList :: messages)
    let rows := (r.messages.zip messages).map fun m => reportRow width m.1 m.2
    { exitCode := if r.ok then 0 else 1
      output :=
        "\n".intercalate ("Validation Report" :: ("Status " ++ messageHeading) :: rows) ++ "\n"
      files }

-- Writes a template to `name` with the ending of a document, in a directory made for it; the answer
-- is where it was written.
def generate (files : FileTree) (template name : String) (directory : Path) :
    Except Fault Path × FileTree :=
  match Template.find template with
  | .error f => (.error f, files)
  | .ok found =>
    match files.makeDirectory directory with
    | (.error e, made) => (.error (.file e), made)
    | (.ok (), made) =>
      let path := directory.join (.ofText (name ++ ".yaml"))
      match made.write path (Document.writeRecord found.snapshot) with
      | (.error e, left) => (.error (.file e), left)
      | (.ok (), written) => (.ok path, written)

def refusal (fault : Fault) : String :=
  match fault with
  | .cyclic _ => "[bold red]Save aborted:[/] " ++ fault.message
  | _ => "[bold red]Error:[/] " ++ fault.message

def savedMessage (t : Transaction) (out : Path) : String :=
  "Saved " ++ toString t.topology.components.length ++ " component(s), "
    ++ toString t.topology.wires.length ++ " wire(s), "
    ++ toString t.deletions.length ++ " deletion(s) to [cyan]" ++ out.text ++ "[/]"

def save (files : FileTree) (settings : Settings) (file : Path) (batch : Batch)
    (supply : List String := []) : Outcome :=
  match files.openSession file settings supply with
  | .error f => .failed files f
  | .ok session =>
    match batch.run files session with
    | (.ok t, saved) => .printed saved 0 (savedMessage t batch.out)
    | (.error (.unknownName _), left) => .usage left
    | (.error (.fault f), left) =>
      if f.isComposition then .printed left 1 (refusal f) else .failed left f

-- Runs a command; the components and wires that it adds draw their ids from `supply`.
def Command.run (c : Command) (files : FileTree) (settings : Settings)
    (supply : List String := []) : Outcome :=
  match c with
  | .generate template name directory =>
    match CommandLine.generate files template name directory with
    | (.error f, made) => .failed made f
    | (.ok path, written) =>
      .printed written 0
        ("Saved template [bold]" ++ template ++ "[/] to [cyan]" ++ path.text ++ "[/]")
  | .validate file =>
    match files.report file supply with
    | .error f => .failed files f
    | .ok report => showReport files report
  | .explain file =>
    match files.plan file supply with
    | .error f => .failed files f
    | .ok plan => { output := plan ++ "\n", files }
  | .save file batch => CommandLine.save files settings file batch supply

def levels : List String :=
  ["CRITICAL", "FATAL", "ERROR", "WARN", "WARNING", "INFO", "DEBUG", "NOTSET"]

def upperLetter (c : Char) : Char :=
  if c = Char.ofNat 0x131 then 'I' else if c = Char.ofNat 0x17F then 'S' else c.toUpper

-- The log level must have a name, in any case; the settings state it unless the command line does.
def checkLevel (stated : Option String) (settings : Settings) : Except Fault Unit :=
  let level := (if stated.getD "" = "" then settings.logLevel else stated.getD "").map upperLetter
  if levels.contains level then .ok () else .error (.unknownLevel level)

def globalOptions : List String := ["--log-level", "--settings"]

def prepare (files : FileTree) (path : Path) (level : Option String) : Except Fault Settings := do
  let settings ← files.loadSettings (some path)
  checkLevel level settings
  return settings

def run (words : List String) (files : FileTree) (supply : List String := []) : Outcome :=
  match Arguments.read globalOptions false words with
  | none => .usage files
  | some globals =>
    match globals.words with
    | [] => .usage files
    | word :: rest =>
      match Verb.ofWord? word with
      | none => .usage files
      | some verb =>
        match pathOf? ((globals.last? "--settings").getD "wires.yaml") with
        | none => .usage files
        | some path =>
          match prepare files path (globals.last? "--log-level") with
          | .error f => .failed files f
          | .ok settings =>
            match (Arguments.read verb.options true rest).bind verb.command? with
            | none => .usage files
            | some command => command.run files settings supply

end WireGraph.CommandLine
