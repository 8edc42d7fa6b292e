/-!
Decimal digits of every script. A script's ten digits stand at ten consecutive code points, so the
zeros determine them all.
-/
namespace TurtleScript.Text

/-- The code points of the digit zero in each script, in ascending order. -/
def zeroDigits : List Nat := [
  0x30, 0x660, 0x6F0, 0x7C0, 0x966, 0x9E6, 0xA66, 0xAE6, 0xB66, 0xBE6, 0xC66, 0xCE6, 0xD66,
  0xDE6, 0xE50, 0xED0, 0xF20, 0x1040, 0x1090, 0x17E0, 0x1810, 0x1946, 0x19D0, 0x1A80, 0x1A90,
  0x1B50, 0x1BB0, 0x1C40, 0x1C50, 0xA620, 0xA8D0, 0xA900, 0xA9D0, 0xA9F0, 0xAA50, 0xABF0,
  0xFF10, 0x104A0, 0x10D30, 0x11066, 0x110F0, 0x11136, 0x111D0, 0x112F0, 0x11450, 0x114D0,
  0x11650, 0x116C0, 0x11730, 0x118E0, 0x11950, 0x11C50, 0x11D50, 0x11DA0, 0x16A60, 0x16AC0,
  0x16B50, 0x1D7CE, 0x1D7D8, 0x1D7E2, 0x1D7EC, 0x1D7F6, 0x1E140, 0x1E2F0, 0x1E950, 0x1FBF0]

/-- The value of a decimal digit of any script. -/
def digitValue? (c : Char) : Option Nat :=
  if c.toNat < 0x80 then
    if c.isDigit then some (c.toNat - 0x30) else none
  else
    (zeroDigits.find? fun base => base ≤ c.toNat && c.toNat < base + 10).map (c.toNat - ·)

/-- Whether a character is a decimal digit of some script. -/
def isDecimalDigit (c : Char) : Bool :=
  (digitValue? c).isSome

/-- A digit's value is below ten. -/
theorem digitValue?_lt {c : Char} {d : Nat} (valued : digitValue? c = some d) : d < 10 := by
  unfold digitValue? at valued
  split at valued
  · split at valued
    · rename_i digit
      simp only [Option.some.injEq] at valued
      simp [Char.isDigit] at digit
      have upper : c.toNat ≤ 57 := by
        have := digit.2
        simpa [UInt32.le_iff_toNat_le] using this
      omega
    · simp at valued
  · obtain ⟨base, found, rfl⟩ := Option.map_eq_some_iff.1 valued
    have := List.find?_some found
    simp at this
    omega

/-- The number a run of digits denotes, most significant first. -/
def digitsValue (digits : List Nat) : Nat :=
  digits.foldl (fun value digit => 10 * value + digit) 0

theorem digitsValue_snoc (digits : List Nat) (digit : Nat) :
    digitsValue (digits ++ [digit]) = 10 * digitsValue digits + digit := by
  simp [digitsValue]

end TurtleScript.Text
