/-!
# Ranges of codes

A set of character codes, given by the codes where membership changes.
-/

namespace WireGraph.Text

def inRanges (edges : List Nat) (n : Nat) : Bool := (edges.takeWhile (· ≤ n)).length % 2 == 1

@[simp] theorem inRanges_nil (n : Nat) : inRanges [] n = false := rfl

end WireGraph.Text
