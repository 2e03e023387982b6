import WireGraph.Yaml.Web

/-!
# Surveys

Whether every cell of a web has a value, and if not, which fault counts. The web is looked at in
rounds: the first round looks at the parts of the outermost cell, and each later one at the parts of
the collections that were met in the round before it, in their order. A collection is looked at once.
-/

namespace WireGraph.Yaml

-- The collections that were met so far, and those that the next round looks at, the last one first.
structure Horizon where
  met : List Nat := []
  next : List Nat := []
deriving DecidableEq, Repr

-- Takes note of a collection; one that was met before is passed over.
def Horizon.meet (h : Horizon) (i : Nat) : Horizon :=
  if h.met.contains i then h else { met := i :: h.met, next := i :: h.next }

namespace Web

def visit (w : Web) (h : Horizon) (i : Nat) : Except Fault Horizon :=
  if w.hasParts i then .ok (h.meet i) else (fun _ => h) <$> w.scalar i

def look (w : Web) (h : Horizon) : Part → Except Fault Horizon
  | .key i => (fun _ => h) <$> w.key i
  | .value i => w.visit h i
  | .misfit => .error .malformed

def lookInside (w : Web) (h : Horizon) (i : Nat) : Except Fault Horizon :=
  (w.parts i).foldlM w.look h

def rounds (w : Web) : (limit : Nat) → Horizon → Except Fault Unit
  | 0, _ => .ok ()
  | limit + 1, h =>
    if h.next = [] then .ok ()
    else do
      let h ← h.next.reverse.foldlM w.lookInside { h with next := [] }
      w.rounds limit h

-- Looks at everything that belongs to a cell. Every round but the last meets a new cell, so the
-- limit is never met.
def survey (w : Web) (root : Nat) : Except Fault Unit := do
  let h ← w.visit {} root
  w.rounds (w.size + 1) h

end Web

end WireGraph.Yaml
