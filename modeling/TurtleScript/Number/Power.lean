/-!
Powers of two and of ten: the weights of binary and of decimal places.
-/
namespace TurtleScript

/-- Two to a power. -/
def twoTo (power : Nat) : Nat := Nat.pow 2 power

/-- Ten to a power. -/
def tenTo (power : Nat) : Nat := Nat.pow 10 power

@[simp] theorem twoTo_zero : twoTo 0 = 1 := rfl

@[simp] theorem tenTo_zero : tenTo 0 = 1 := rfl

/-- Each binary place weighs twice the one below it. -/
theorem twoTo_succ (power : Nat) : twoTo (power + 1) = twoTo power * 2 := rfl

/-- Each decimal place weighs ten times the one below it. -/
theorem tenTo_succ (power : Nat) : tenTo (power + 1) = tenTo power * 10 := rfl

theorem tenTo_mono {low high : Nat} (le : low ≤ high) : tenTo low ≤ tenTo high :=
  Nat.pow_le_pow_right (by decide) le

end TurtleScript
