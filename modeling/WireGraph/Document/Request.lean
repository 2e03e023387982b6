import WireGraph.Document.Text
import WireGraph.Session

/-!
# Requests as values

What an editor gives may be a value of any kind. Here such values are read as the parts of a request:
as a role, or as an order for a component. The factory of an order is looked up before anything is
checked, so it must be a scalar; then the parts are checked like the fields of the component that the
order asks for.
-/

namespace WireGraph

open Document

def Role.ofValue : Value → Except Fault Role
  | .scalar (.text word) => Role.named word
  | other => .error (.unknownRole other.nested)

def Order.ofValues (factory name driver : Value) : Except Fault Order :=
  match factory with
  | .scalar _ =>
    Check.orInvalid .newComponent
      ((fun name factory driver => { factory, name, driver : Order })
        <$> (text name).under (.field "name")
        <*> (text factory).under (.field "factory_pid")
        <*> (textOrNull driver).under (.field "driver_ref"))
  | _ => .error .notScalar

end WireGraph
