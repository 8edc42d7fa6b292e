/-!
Sets of code points given as closed ranges. Every character property of this library is such a set,
so a fact about a property is a fact about a list of pairs.
-/
namespace TurtleScript.Text

/-- Closed ranges of code points, in ascending order. -/
abbrev Ranges := List (Nat × Nat)

/-- Whether a code point lies in one of the ranges. -/
def Ranges.has (ranges : Ranges) (code : Nat) : Bool :=
  ranges.any fun range => range.1 ≤ code && code ≤ range.2

theorem Ranges.has_iff (ranges : Ranges) (code : Nat) :
    ranges.has code = true ↔ ∃ range ∈ ranges, range.1 ≤ code ∧ code ≤ range.2 := by
  simp [Ranges.has]

end TurtleScript.Text
