import WireGraph.Document.Record
import WireGraph.Yaml.Read
import WireGraph.Yaml.Write

/-!
# Records as texts

A record is stored as the text of a document that holds its fields. A document that is empty, or
holds nothing but an empty value, is read as a record without fields; one that is no mapping from
texts cannot be read as a record at all.
-/

namespace WireGraph.Document

def Check.orInvalid {α : Type} (shape : Shape) : Check α → Except Fault α
  | .ok a => .ok a
  | .error issues => .error (.invalid shape issues)

def textKeys (entries : Entries) : Bool :=
  entries.all fun e => match e.1 with
    | .text _ => true
    | .broken _ => true
    | _ => false

def ofValue (α : Type) [Record α] (v : Value) : Except Fault α :=
  (Record.check v : Check α).orInvalid (Record.shape α)

def fieldsOf (v : Value) : Except Fault Value :=
  if v.isBlank then .ok (.mapping [])
  else match v.opened with
    | .mapping entries => if textKeys entries then .ok (.mapping entries) else .error .notFields
    | _ => .error .notFields

def readRecord (α : Type) [Record α] (text : String) : Except Fault α := do
  let v ← Yaml.read text
  let fields ← fieldsOf v
  ofValue α fields

def writeRecord {α : Type} [Record α] (a : α) : String := Yaml.write (toValue a)

end WireGraph.Document
