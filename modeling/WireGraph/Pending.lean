import WireGraph.Record

/-!
# Pending changes

What a registry has not heard of yet: the removals that the next save has to replay, in order, and
the ids of the components made since the last save. Only what a registry knows leaves a removal
behind: a component with a real pid, or a wire that an earlier save committed.
-/

namespace WireGraph

structure Pending where
  deletions : List Deletion := []
  creations : List String := []
deriving DecidableEq, Repr, Inhabited

def Wire.deletion? (w : Wire) : Option Deletion :=
  if w.fresh then none else some (.wire ⟨w.producer, w.consumer⟩)

def Component.deletion? (c : Component) : Option Deletion :=
  if c.registered then some (.component ⟨c.pid⟩) else none

namespace Pending

def noteCreation (p : Pending) (c : Component) : Pending :=
  if c.registered || p.creations.contains c.id then p
  else { p with creations := p.creations ++ [c.id] }

def noteWireRemoval (p : Pending) (w : Wire) : Pending :=
  { p with deletions := p.deletions ++ w.deletion?.toList }

def noteRemoval (p : Pending) (c : Component) : Pending :=
  { deletions := p.deletions ++ c.deletion?.toList
    creations := p.creations.filter (· != c.id) }

def takeDeletions (p : Pending) : List Deletion × Pending := (p.deletions, { p with deletions := [] })

def clearCreations (p : Pending) : Pending := { p with creations := [] }

def reset (_ : Pending) : Pending := {}

def settle (p : Pending) : Pending := p.takeDeletions.2.clearCreations

@[simp] theorem noteCreation_deletions (p : Pending) (c : Component) :
    (p.noteCreation c).deletions = p.deletions := by
  unfold noteCreation
  split <;> rfl

@[simp] theorem settle_eq (p : Pending) : p.settle = {} := rfl

end Pending

end WireGraph
