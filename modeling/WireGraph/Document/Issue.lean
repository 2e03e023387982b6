/-!
# Issues

What can be wrong with a value that should be a record: where it is, and which rule it breaks. Each
rule has a code and a message.
-/

namespace WireGraph.Document

inductive Shape where
  | newComponent
  | component
  | wire
  | deletedWire
  | deletedInstance
  | topology
  | transaction
  | registration
  | snapshot
  | settings
deriving DecidableEq, Repr

def Shape.title : Shape → String
  | .newComponent => "ComponentSpec"
  | .component => "Component"
  | .wire => "Wire"
  | .deletedWire => "WireDeletion"
  | .deletedInstance => "InstanceDeletion"
  | .topology => "Topology"
  | .transaction => "SaveTransaction"
  | .registration => "RegisteredComponent"
  | .snapshot => "RegistrySnapshot"
  | .settings => "Settings"

inductive Hop where
  | field (name : String)
  | item (index : Nat)
deriving DecidableEq, Repr

inductive Problem where
  | missing
  | notText
  -- Data that is no text, or a text that holds half of a pair of units.
  | brokenText
  | notList
  | notRecord (shape : Shape)
  | notRole
  | notFlag
  | unreadableFlag
  | otherKind (expected : String)
  | notDeletion
  | noKind
  | unknownKind (tag : String)
deriving DecidableEq, Repr

def Problem.code : Problem → String
  | .missing => "missing"
  | .notText => "string_type"
  | .brokenText => "string_unicode"
  | .notList => "list_type"
  | .notRecord _ => "model_type"
  | .notRole => "enum"
  | .notFlag => "bool_type"
  | .unreadableFlag => "bool_parsing"
  | .otherKind _ => "literal_error"
  | .notDeletion => "model_attributes_type"
  | .noKind => "union_tag_not_found"
  | .unknownKind _ => "union_tag_invalid"

def Problem.message : Problem → String
  | .missing => "Field required"
  | .notText => "Input should be a valid string"
  | .brokenText => "Input should be a valid string, unable to parse raw data as a unicode string"
  | .notList => "Input should be a valid list"
  | .notRecord shape =>
    "Input should be a valid dictionary or instance of " ++ shape.title
  | .notRole => "Input should be 'producer', 'consumer' or 'both'"
  | .notFlag => "Input should be a valid boolean"
  | .unreadableFlag => "Input should be a valid boolean, unable to interpret input"
  | .otherKind expected => "Input should be '" ++ expected ++ "'"
  | .notDeletion => "Input should be a valid dictionary or object to extract fields from"
  | .noKind => "Unable to extract tag using discriminator 'kind'"
  | .unknownKind tag =>
    "Input tag '" ++ tag ++ "' found using 'kind' does not match any of the expected tags: "
      ++ "'wire', 'instance'"

structure Issue where
  place : List Hop
  problem : Problem
deriving DecidableEq, Repr

end WireGraph.Document
