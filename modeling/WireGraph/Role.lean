/-!
# Roles and ports

A component has one role, and the role alone says which ports it exposes: at most one port in each
direction, and ports carry no name of their own. The role of a new component follows from the
factory lists that a registry advertises.
-/

namespace WireGraph

inductive Role where
  | producer
  | consumer
  | both
deriving DecidableEq, Repr, Inhabited

structure Ports where
  inputs : List String
  outputs : List String
deriving DecidableEq, Repr

def unnamedPort : String := ""

namespace Role

def word : Role → String
  | .producer => "producer"
  | .consumer => "consumer"
  | .both => "both"

-- The role a word stands for; the words are case sensitive.
def ofWord? (text : String) : Option Role :=
  if text = "producer" then some .producer
  else if text = "consumer" then some .consumer
  else if text = "both" then some .both
  else none

@[simp] theorem ofWord?_word (role : Role) : ofWord? role.word = some role := by
  cases role <;> decide

def ports : Role → Ports
  | .producer => ⟨[], [unnamedPort]⟩
  | .consumer => ⟨[unnamedPort], []⟩
  | .both => ⟨[unnamedPort], [unnamedPort]⟩

def hasInput (role : Role) : Bool := !role.ports.inputs.isEmpty

def hasOutput (role : Role) : Bool := !role.ports.outputs.isEmpty

-- The role of a component made by `factory`, given the factories advertised as producers and as
-- consumers. A factory in neither list makes consumers.
def ofFactory (factory : String) (producers consumers : List String) : Role :=
  if producers.contains factory then
    if consumers.contains factory then .both else .producer
  else .consumer

end Role

end WireGraph
