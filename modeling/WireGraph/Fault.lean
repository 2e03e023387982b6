import WireGraph.Document.Issue
import WireGraph.Files
import WireGraph.Role

/-!
# Faults

Every way in which an operation can be refused, named by its cause, and the message of each. The
faults of composing a graph are told apart from all others: a caller may report them and go on.
-/

namespace WireGraph

open Document (Issue Shape)

inductive EndpointFault where
  | absent (id : String)
  | noOutput (name : String)
  | noInput (name : String)
  | stated (note : String)
deriving DecidableEq, Repr

-- Why a written scalar means nothing: the part of a date that names no such day or time, characters
-- that are no number, a word that is no truth word, or a character code that no character has.
inductive ScalarFault where
  | year (value : Nat)
  | month
  | day
  | hour
  | minute
  | second
  | offset (minutes : Int)
  | noStamp
  | digits (base : Nat) (text : String)
  | tooManyDigits (count : Nat)
  | notFloat (text : String)
  | noNumber
  | unknownWord (word : String)
  | code
  | codeTooLarge
deriving DecidableEq, Repr

inductive Fault where
  | stated (note : String)
  | emptyName
  | duplicateName (name : String)
  | notFound (kind id : String)
  | selfLoop (id : String)
  | endpoint (cause : EndpointFault)
  | duplicateWire (producer consumer : String)
  | missingDriver (factory : String)
  | cyclic (cycle : List String)
  | saveInProgress
  | sessionClosed
  | refused (note : String)
  | unwritable (path : Path) (cause : FileError)
  | crashed (note : String)
  | aborted
  -- A live record names an id that the graph does not hold.
  | danglingId (id : String)
  -- What was given, as it is shown in messages, is no role.
  | unknownRole (shown : String)
  | unknownField (shape : Shape) (name : String)
  | unknownTemplate (name : String) (known : List String)
  | unknownLevel (name : String)
  -- A list or mapping stands where only a scalar can be looked up.
  | notScalar
  | notFields
  | invalid (shape : Shape) (issues : List Issue)
  | malformed
  | scalar (cause : ScalarFault)
  | file (cause : FileError)
  | markup
deriving DecidableEq, Repr

namespace Fault

def isComposition : Fault → Bool
  | .stated _ | .emptyName | .duplicateName _ | .notFound _ _ | .selfLoop _ | .endpoint _
  | .duplicateWire _ _ | .missingDriver _ | .cyclic _ | .saveInProgress | .sessionClosed
  | .refused _ | .unwritable _ _ => true
  | _ => false

def isName : Fault → Bool
  | .emptyName | .duplicateName _ => true
  | _ => false

end Fault

def EndpointFault.message : EndpointFault → String
  | .absent id => "Component '" ++ id ++ "' is not in the graph."
  | .noOutput name => "Component '" ++ name ++ "' has no output port."
  | .noInput name => "Component '" ++ name ++ "' has no input port."
  | .stated note => note

-- How much of a text is shown when it is no whole number.
def shownLength : Nat := 200

def digitLimit : Nat := 4300

def ScalarFault.message : ScalarFault → String
  | .year value => "year " ++ toString value ++ " is out of range"
  | .month => "month must be in 1..12"
  | .day => "day is out of range for month"
  | .hour => "hour must be in 0..23"
  | .minute => "minute must be in 0..59"
  | .second => "second must be in 0..59"
  | .offset minutes =>
    "offset must be a timedelta strictly between -timedelta(hours=24) and timedelta(hours=24), not "
      ++ Document.spanText minutes ++ "."
  | .noStamp => "'NoneType' object has no attribute 'groupdict'"
  | .digits base text =>
    "invalid literal for int() with base " ++ toString base ++ ": "
      ++ ((Document.quoted text).take shownLength).toString
  | .tooManyDigits count =>
    "Exceeds the limit (" ++ toString digitLimit ++ " digits) for integer string conversion: value has "
      ++ toString count ++ " digits; use sys.set_int_max_str_digits() to increase the limit"
  | .notFloat text => "could not convert string to float: " ++ Document.quoted text
  | .noNumber => "string index out of range"
  | .unknownWord word => word
  | .code => "chr() arg not in range(0x110000)"
  | .codeTooLarge => "Python int too large to convert to C int"

def Fault.message : Fault → String
  | .stated note => note
  | .emptyName => "Component name must not be empty."
  | .duplicateName name => "A component named '" ++ name ++ "' already exists."
  | .notFound kind id => "No " ++ kind ++ " with id '" ++ id ++ "'."
  | .selfLoop id => "Cannot wire component '" ++ id ++ "' to itself."
  | .endpoint cause => cause.message
  | .duplicateWire producer consumer => "Wire " ++ producer ++ "->" ++ consumer ++ " already exists."
  | .missingDriver factory => "Factory '" ++ factory ++ "' requires a driver reference."
  | .cyclic [] => "Topology contains a cycle"
  | .cyclic cycle => "Topology contains a cycle: " ++ " -> ".intercalate cycle
  | .saveInProgress => "Graph is locked while a save is in flight."
  | .sessionClosed => "Editing session has been closed."
  | .refused note => note
  | .unwritable path cause =>
    "Could not write transaction to " ++ path.text ++ ": " ++ cause.reason
  | .crashed note => note
  | .aborted => "raised by step"
  | .danglingId id => id
  | .unknownRole shown => shown ++ " is not a valid Role"
  | .unknownField shape name =>
    "\"" ++ shape.title ++ "\" object has no field \"" ++ name ++ "\""
  | .unknownTemplate name known =>
    "Unknown template '" ++ name ++ "'. Use one of: " ++ ", ".intercalate known
  | .unknownLevel name => "Unknown level: " ++ Document.quoted name
  | .notScalar => "a list or mapping cannot be looked up"
  | .notFields => "the document is no mapping with textual keys"
  | .invalid shape issues =>
    toString issues.length ++ " validation error(s) for " ++ shape.title
  | .malformed => "the document is malformed"
  | .scalar cause => cause.message
  | .file cause => cause.reason
  | .markup => "a closing tag has nothing to close"

-- The fault of a transaction that could not be written to `path`.
def Fault.ofWriting (path : Path) (cause : FileError) : Fault :=
  if cause.isOfPath then .file cause else .unwritable path cause

def Role.named (word : String) : Except Fault Role :=
  match Role.ofWord? word with
  | some role => .ok role
  | none => .error (.unknownRole (Document.quoted word))

end WireGraph
