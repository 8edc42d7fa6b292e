import Mathlib.Algebra.Order.Field.Power
import Mathlib.Tactic.Linarith
import Mathlib.Tactic.NormNum
import Mathlib.Tactic.Ring
import TurtleScript.Number.Binary64

/-!
Double-precision numbers as exact fractions. A number is written in bits, is unpacked by the
arithmetic on it, and has parts by which this library computes; here the three are shown to say the
same, and the value of a finite number is the fraction that all of them denote.
-/
namespace TurtleScript.Binary64

open Float.Model Float.Model.UnpackedFloat

/-! ## Fields -/

theorem toNat_unpackExponent (bits : BitVec 64) :
    (@unpackExponent .binary64 bits).toNat = bits.toNat / twoTo 52 % twoTo 11 := by
  change ((bits.extractLsb (52 + 11 - 1) 52).cast _).toNat = _
  rw [BitVec.toNat_cast, BitVec.extractLsb_toNat, Nat.shiftRight_eq_div_pow]
  rfl

theorem toNat_unpackMantissa (bits : BitVec 64) :
    (@unpackMantissa .binary64 bits).toNat = bits.toNat % twoTo 52 := by
  change ((bits.extractLsb (52 - 1) 0).cast _).toNat = _
  rw [BitVec.toNat_cast, BitVec.extractLsb_toNat, Nat.shiftRight_zero]
  rfl

private theorem toNat_unpackSign (bits : BitVec 64) :
    (@unpackSign .binary64 bits).toNat = bits.toNat / twoTo 63 % 2 := by
  change ((bits.extractLsb (52 + 11) (52 + 11)).cast _).toNat = _
  rw [BitVec.toNat_cast, BitVec.extractLsb_toNat, Nat.shiftRight_eq_div_pow]
  rfl

private theorem toNat_append_fields {n m : Nat} (high : BitVec n) (low : BitVec m) :
    (high ++ low).toNat = high.toNat * 2 ^ m + low.toNat := by
  rw [BitVec.toNat_append, ← Nat.shiftLeft_add_eq_or_of_lt low.isLt, Nat.shiftLeft_eq]

private theorem toNat_packComponents (sign : Sign) (exponent : BitVec 11) (mantissa : BitVec 52) :
    (packComponents .binary64 sign exponent mantissa).toNat =
      (sign.toBitVec.toNat * 2 ^ 11 + exponent.toNat) * 2 ^ 52 + mantissa.toNat := by
  change (sign.toBitVec ++ exponent ++ mantissa).toNat = _
  rw [toNat_append_fields, toNat_append_fields]

private theorem toBitVec_ofBitVec (sign : BitVec 1) : (Sign.ofBitVec sign).toBitVec = sign := by
  revert sign
  decide

/-! ## Unpacking -/

/-- What a sign, an exponent field and a mantissa field are unpacked to. -/
inductive Unpacks (sign : Sign) (biased fraction : Nat) : UnpackedFloat → Prop
  | notANumber (ones : biased = 0x7FF) (filled : fraction ≠ 0) :
    Unpacks sign biased fraction .notANumber
  | infinity (ones : biased = 0x7FF) (empty : fraction = 0) :
    Unpacks sign biased fraction (.infinity sign)
  | zero (least : biased = 0) (empty : fraction = 0) : Unpacks sign biased fraction (.zero sign)
  | subnormal {mantissa : Nat} {exponent : Int} {positive : 0 < mantissa} (least : biased = 0)
    (whole : mantissa = fraction) (lowest : exponent = -1074) :
    Unpacks sign biased fraction (.finite sign mantissa exponent positive)
  | normal {mantissa : Nat} {exponent : Int} {positive : 0 < mantissa} (filled : biased ≠ 0)
    (below : biased < 0x7FF) (whole : mantissa = twoTo 52 + fraction)
    (unbiased : exponent = biased - 1075) :
    Unpacks sign biased fraction (.finite sign mantissa exponent positive)

private theorem ones_iff (field : BitVec 11) : field = -1#11 ↔ field.toNat = 0x7FF := by
  rw [← BitVec.toNat_inj]
  rfl

private theorem zero_iff {width : Nat} (field : BitVec width) :
    field = BitVec.ofNat width 0 ↔ field.toNat = 0 := by
  rw [← BitVec.toNat_inj, BitVec.toNat_zero]

theorem unpack_unpacks (bits : BitVec 64) :
    Unpacks (Sign.ofBitVec (@unpackSign .binary64 bits)) (bits.toNat / twoTo 52 % twoTo 11)
      (bits.toNat % twoTo 52) (UnpackedFloat.unpack .binary64 bits) := by
  have exponent := toNat_unpackExponent bits
  have mantissa := toNat_unpackMantissa bits
  have bias : (Format.binary64.exponentBias : Int) = 1023 := by decide
  have small : bits.toNat / twoTo 52 % twoTo 11 < twoTo 11 := Nat.mod_lt _ (by decide)
  unfold UnpackedFloat.unpack
  dsimp only
  rw [← exponent, ← mantissa]
  by_cases ones : @unpackExponent .binary64 bits = -1#11
  · rw [if_pos ones]
    by_cases empty : @unpackMantissa .binary64 bits = 0#52
    · rw [if_pos empty]
      exact .infinity ((ones_iff _).mp ones) ((zero_iff _).mp empty)
    · rw [if_neg empty]
      exact .notANumber ((ones_iff _).mp ones) (mt (zero_iff _).mpr empty)
  · rw [if_neg ones]
    by_cases least : @unpackExponent .binary64 bits = 0#11
    · rw [if_pos least]
      by_cases empty : @unpackMantissa .binary64 bits = 0#52
      · rw [dif_pos empty]
        exact .zero ((zero_iff _).mp least) ((zero_iff _).mp empty)
      · rw [dif_neg empty]
        refine .subnormal ((zero_iff _).mp least) rfl ?_
        rw [bias, (zero_iff _).mp least]
        rfl
    · rw [if_neg least]
      have notOnes := mt (ones_iff _).mpr ones
      rw [exponent] at notOnes
      have width : twoTo 11 = 2048 := by decide
      refine .normal (mt (zero_iff _).mpr least) (by omega) ?_ ?_
      · rw [toNat_append_fields]
        rfl
      · rw [bias]
        rfl

/-! ## Packing -/

/-- A mantissa and an exponent as they are written in bits: the mantissa has 53 bits, or fewer at the
least exponent. -/
structure Canonical (mantissa : Nat) (exponent : Int) : Prop where
  below : mantissa < 2 ^ 53
  least : -1074 ≤ exponent
  full : exponent = -1074 ∨ 2 ^ 52 ≤ mantissa

/-- The bits of a magnitude, those of infinity if it is too large. Above the subnormal range the
leading bit of the mantissa adds one to the exponent field. -/
def magnitudeOf (mantissa : Nat) (exponent : Int) : Nat :=
  min ((exponent + 1074).toNat * 2 ^ 52 + mantissa) (0x7FF * 2 ^ 52)

theorem magnitudeOf_le (mantissa : Nat) (exponent : Int) :
    magnitudeOf mantissa exponent ≤ 0x7FF * 2 ^ 52 := Nat.min_le_right ..

private theorem toNat_packedInfinity (sign : Sign) :
    (packedInfinity .binary64 sign).toNat = sign.toBitVec.toNat * 2 ^ 63 + 0x7FF * 2 ^ 52 := by
  cases sign <;> decide

/-- What a canonical number is packed to. -/
theorem toNat_pack_finite {mantissa : Nat} {exponent : Int} (canonical : Canonical mantissa exponent)
    (sign : Sign) (positive : 0 < mantissa) :
    (UnpackedFloat.pack .binary64 (.finite sign mantissa exponent positive)).toNat =
      sign.toBitVec.toNat * 2 ^ 63 + magnitudeOf mantissa exponent := by
  obtain ⟨below, least, full⟩ := canonical
  have bias : (Format.binary64.exponentBias : Int) = 1023 := by decide
  have width : 2 ^ Format.binary64.exponentBits = 2048 := by decide
  have digits : Format.binary64.mantissaBits = 53 := by decide
  unfold UnpackedFloat.pack magnitudeOf
  dsimp only
  rw [bias, width, digits]
  split
  · rw [toNat_packedInfinity]
    omega
  · rename_i inRange
    split
    · rename_i log
      have leading : 2 ^ 52 ≤ mantissa := (Nat.le_log2 positive.ne').mp (by omega)
      rw [toNat_packComponents, BitVec.toNat_ofNat, BitVec.toNat_ofNat]
      have field : (exponent + 1023 + (52 : Nat)).toNat % 2 ^ 11 = (exponent + 1074).toNat + 1 := by
        omega
      have tail : mantissa % 2 ^ 52 + 2 ^ 52 = mantissa := by omega
      rw [field, Nat.min_eq_left (by omega)]
      omega
    · rename_i log
      have short : mantissa < 2 ^ 52 := by
        refine (Nat.log2_lt positive.ne').mp ?_
        have := (Nat.log2_lt positive.ne').mpr below
        omega
      rw [toNat_packComponents, BitVec.toNat_ofNat, BitVec.toNat_ofNat]
      omega

/-- Packing what some bits were unpacked to gives the bits, unless they are not a number. -/
theorem pack_unpack {bits : BitVec 64}
    (number : UnpackedFloat.unpack .binary64 bits ≠ .notANumber) :
    UnpackedFloat.pack .binary64 (UnpackedFloat.unpack .binary64 bits) = bits := by
  have unpacks := unpack_unpacks bits
  have sign : bits.toNat / 2 ^ 63 =
      (Sign.ofBitVec (@unpackSign .binary64 bits)).toBitVec.toNat := by
    rw [toBitVec_ofBitVec, toNat_unpackSign]
    exact (Nat.mod_eq_of_lt (Nat.div_lt_of_lt_mul bits.isLt)).symm
  have low : twoTo 52 = 2 ^ 52 := rfl
  have width : twoTo 11 = 2 ^ 11 := rfl
  rw [low, width] at unpacks
  have size : bits.toNat < 2 ^ 64 := bits.isLt
  generalize UnpackedFloat.unpack .binary64 bits = unpacked at *
  generalize Sign.ofBitVec (@unpackSign .binary64 bits) = s at *
  refine BitVec.eq_of_toNat_eq ?_
  cases unpacks with
  | notANumber => exact absurd rfl number
  | infinity ones empty =>
    change (packedInfinity .binary64 s).toNat = _
    rw [toNat_packedInfinity]
    omega
  | zero least empty =>
    change (packComponents .binary64 s 0 0).toNat = _
    rw [toNat_packComponents]
    simp only [BitVec.ofNat_eq_ofNat, BitVec.toNat_zero]
    omega
  | subnormal least whole lowest =>
    rw [toNat_pack_finite ⟨by omega, by omega, .inl lowest⟩]
    unfold magnitudeOf
    omega
  | normal filled below whole unbiased =>
    rw [toNat_pack_finite ⟨by omega, by omega, .inr (by omega)⟩]
    unfold magnitudeOf
    omega

/-! ## Parts -/

/-- Whether a sign is the negative one. -/
def isMinus : Sign → Bool
  | .negative => true
  | .positive => false

/-- The parts of an unpacked number. -/
def partsOf : UnpackedFloat → Parts
  | .notANumber => .nan
  | .infinity sign => .infinite (isMinus sign)
  | .zero sign => .finite (isMinus sign) 0 (-1074)
  | .finite sign mantissa exponent _ => .finite (isMinus sign) mantissa exponent

private theorem isMinus_ofBitVec (bits : BitVec 64) :
    (bits.toNat / twoTo 63 % 2 == 1) = isMinus (Sign.ofBitVec (@unpackSign .binary64 bits)) := by
  rw [← toNat_unpackSign]
  generalize @unpackSign .binary64 bits = sign
  revert sign
  decide

/-- The parts of some bits are those of what they are unpacked to. -/
theorem partsOfBits_eq (bits : BitVec 64) :
    partsOfBits bits.toNat = partsOf (UnpackedFloat.unpack .binary64 bits) := by
  have unpacks := unpack_unpacks bits
  unfold partsOfBits
  dsimp only
  rw [isMinus_ofBitVec]
  generalize UnpackedFloat.unpack .binary64 bits = unpacked at unpacks
  cases unpacks with
  | notANumber ones filled => rw [if_pos ones, if_neg filled]; rfl
  | infinity ones empty => rw [if_pos ones, if_pos empty]; rfl
  | zero least empty => rw [if_neg (by omega), if_pos least, empty]; rfl
  | subnormal least whole lowest =>
    rw [if_neg (by omega), if_pos least, ← whole, ← lowest]
    rfl
  | normal filled below whole unbiased =>
    rw [if_neg (by omega), if_neg filled, ← whole, Int.ofNat_eq_natCast, ← unbiased]
    rfl

theorem parts_eq (x : Float) : parts x = partsOf x.toModel.unpack := partsOfBits_eq _

/-- A number is finite if its parts are. -/
theorem isFinite_iff {x : Float} :
    x.isFinite = true ↔ ∃ negative mantissa exponent, parts x = .finite negative mantissa exponent := by
  change x.toModel.unpack.isFinite = true ↔ _
  rw [parts_eq]
  cases x.toModel.unpack with
  | notANumber | infinity =>
    refine ⟨Bool.noConfusion, ?_⟩
    rintro ⟨_, _, _, finite⟩
    cases finite
  | zero | finite => exact ⟨fun _ => ⟨_, _, _, rfl⟩, fun _ => rfl⟩

/-- The parts of a finite number are canonical. -/
theorem canonical_of_parts {x : Float} {negative : Bool} {mantissa : Nat} {exponent : Int}
    (finite : parts x = .finite negative mantissa exponent) :
    Canonical mantissa exponent ∧ exponent ≤ 971 := by
  have unpacks : Unpacks _ _ _ x.toModel.unpack := unpack_unpacks x.toBits.toBitVec
  have low : twoTo 52 = 2 ^ 52 := rfl
  have small : x.toBits.toBitVec.toNat % twoTo 52 < 2 ^ 52 := Nat.mod_lt _ (by decide)
  rw [low] at unpacks small
  rw [parts_eq] at finite
  generalize x.toModel.unpack = unpacked at *
  cases unpacks with
  | notANumber | infinity => cases finite
  | zero =>
    cases finite
    exact ⟨⟨by decide, by decide, .inl rfl⟩, by decide⟩
  | subnormal least whole lowest =>
    cases finite
    exact ⟨⟨by omega, by omega, .inl lowest⟩, by omega⟩
  | normal filled below whole unbiased =>
    cases finite
    exact ⟨⟨by omega, by omega, .inr (by omega)⟩, by omega⟩

/-! ## Values -/

/-- The fraction that a finite number is. -/
def value (x : Float) : ℚ :=
  match parts x with
  | .finite negative mantissa exponent =>
    (if negative then -1 else 1) * (mantissa * 2 ^ exponent)
  | _ => 0

/-! ## Numbers by their magnitude -/

/-- A mantissa and an exponent as rounding gives them: canonical, or rounded up to the next power of
two. -/
structure Aligned (mantissa : Nat) (exponent : Int) : Prop where
  le : mantissa ≤ 2 ^ 53
  least : -1074 ≤ exponent
  full : exponent = -1074 ∨ 2 ^ 52 ≤ mantissa

theorem Canonical.aligned {mantissa : Nat} {exponent : Int}
    (canonical : Canonical mantissa exponent) : Aligned mantissa exponent :=
  ⟨canonical.below.le, canonical.least, canonical.full⟩

/-- Bits that are a number are kept. -/
private theorem toBits_ofBits {word : Nat} (size : word < 2 ^ 64)
    (number : word / 2 ^ 52 % 2 ^ 11 = 0x7FF → word % 2 ^ 52 = 0) :
    (Float.ofBits (UInt64.ofNat word)).toBits.toNat = word := by
  have given : (UInt64.ofNat word).toBitVec.toNat = word := Nat.mod_eq_of_lt size
  have unpacked : UnpackedFloat.unpack .binary64 (UInt64.ofNat word).toBitVec ≠ .notANumber := by
    have unpacks := unpack_unpacks (UInt64.ofNat word).toBitVec
    rw [given] at unpacks
    intro none
    rw [none] at unpacks
    cases unpacks with
    | notANumber ones filled => exact filled (number ones)
  have packed := congrArg BitVec.toNat (pack_unpack unpacked)
  rwa [given] at packed

/-- A number has the bits of its sign and its magnitude. -/
theorem toBits_signed (negative : Bool) {bits : Nat} (size : bits ≤ 0x7FF * 2 ^ 52) :
    (signed negative bits).toBits.toNat = (if negative then 2 ^ 63 else 0) + bits := by
  have high : twoTo 63 = 2 ^ 63 := rfl
  unfold signed
  cases negative with
  | false =>
    simp only [Bool.false_eq_true, if_false, Nat.zero_add]
    exact toBits_ofBits (by omega) (by omega)
  | true =>
    simp only [if_true, high]
    exact toBits_ofBits (by omega) (by omega)

private theorem parts_of_magnitude (negative : Bool) {bits : Nat} (size : bits < 0x7FF * 2 ^ 52) :
    parts (signed negative bits) =
      if bits / 2 ^ 52 = 0 then .finite negative (bits % 2 ^ 52) (-1074)
      else .finite negative (2 ^ 52 + bits % 2 ^ 52) ((bits / 2 ^ 52 : Nat) - 1075) := by
  have low : twoTo 52 = 2 ^ 52 := rfl
  have width : twoTo 11 = 2 ^ 11 := rfl
  have high : twoTo 63 = 2 ^ 63 := rfl
  unfold parts partsOfBits
  rw [toBits_signed negative size.le, low, width, high]
  have minus : (((if negative then 2 ^ 63 else 0) + bits) / 2 ^ 63 % 2 == 1) = negative := by
    cases negative with
    | false =>
      simp only [Bool.false_eq_true, if_false, beq_eq_false_iff_ne]
      omega
    | true =>
      simp only [if_true, beq_iff_eq]
      omega
  have field : ((if negative then 2 ^ 63 else 0) + bits) / 2 ^ 52 % 2 ^ 11 = bits / 2 ^ 52 := by
    split <;> omega
  have tail : ((if negative then 2 ^ 63 else 0) + bits) % 2 ^ 52 = bits % 2 ^ 52 := by
    split <;> omega
  dsimp only
  rw [minus, field, tail, if_neg (by omega)]
  rfl

private theorem parts_of_infinity (negative : Bool) :
    parts (signed negative (0x7FF * 2 ^ 52)) = .infinite negative := by
  cases negative <;> decide +kernel

/-- The parts of a number of a magnitude. What was rounded up to a power of two has one digit less,
and what is too large is infinite. -/
theorem parts_signed (negative : Bool) {mantissa : Nat} {exponent : Int}
    (aligned : Aligned mantissa exponent) :
    (magnitudeOf mantissa exponent < 0x7FF * 2 ^ 52 ∧
      ∃ m e, parts (signed negative (magnitudeOf mantissa exponent)) = .finite negative m e ∧
        (m : ℚ) * 2 ^ e = mantissa * 2 ^ exponent ∧ m % 2 = mantissa % 2) ∨
    magnitudeOf mantissa exponent = 0x7FF * 2 ^ 52 ∧
      parts (signed negative (magnitudeOf mantissa exponent)) = .infinite negative := by
  obtain ⟨le, least, full⟩ := aligned
  by_cases finite : magnitudeOf mantissa exponent < 0x7FF * 2 ^ 52
  · refine .inl ⟨finite, ?_⟩
    have written := parts_of_magnitude negative finite
    have bits : magnitudeOf mantissa exponent = (exponent + 1074).toNat * 2 ^ 52 + mantissa :=
      Nat.min_eq_left (by unfold magnitudeOf at finite; omega)
    rw [bits] at written ⊢
    by_cases short : mantissa < 2 ^ 52
    · have lowest : exponent = -1074 := by omega
      rw [if_pos (by omega)] at written
      exact ⟨_, _, written, by rw [lowest]; congr 2; omega, by omega⟩
    · rw [if_neg (by omega)] at written
      by_cases carried : mantissa = 2 ^ 53
      · refine ⟨_, _, written, ?_, by omega⟩
        have whole : 2 ^ 52 + ((exponent + 1074).toNat * 2 ^ 52 + mantissa) % 2 ^ 52 = 2 ^ 52 := by
          omega
        have next : (((exponent + 1074).toNat * 2 ^ 52 + mantissa) / 2 ^ 52 : Nat) - 1075 =
          exponent + 1 := by omega
        rw [whole, next, carried, zpow_add_one₀ two_ne_zero]
        push_cast
        ring
      · refine ⟨_, _, written, ?_, by omega⟩
        have whole : 2 ^ 52 + ((exponent + 1074).toNat * 2 ^ 52 + mantissa) % 2 ^ 52 = mantissa := by
          omega
        have same : (((exponent + 1074).toNat * 2 ^ 52 + mantissa) / 2 ^ 52 : Nat) - 1075 =
          exponent := by omega
        rw [whole, same]
  · have full : magnitudeOf mantissa exponent = 0x7FF * 2 ^ 52 := by
      unfold magnitudeOf at finite ⊢
      omega
    rw [full]
    exact .inr ⟨rfl, parts_of_infinity negative⟩

theorem isFinite_signed (negative : Bool) {mantissa : Nat} {exponent : Int}
    (aligned : Aligned mantissa exponent) :
    (signed negative (magnitudeOf mantissa exponent)).isFinite = true ↔
      magnitudeOf mantissa exponent < 0x7FF * 2 ^ 52 := by
  rw [isFinite_iff]
  obtain ⟨finite, m, e, written, -, -⟩ | ⟨full, written⟩ := parts_signed negative aligned
  · exact ⟨fun _ => finite, fun _ => ⟨_, _, _, written⟩⟩
  · rw [written, full]
    simp

theorem value_signed (negative : Bool) {mantissa : Nat} {exponent : Int}
    (aligned : Aligned mantissa exponent)
    (finite : magnitudeOf mantissa exponent < 0x7FF * 2 ^ 52) :
    value (signed negative (magnitudeOf mantissa exponent)) =
      (if negative then -1 else 1) * (mantissa * 2 ^ exponent) := by
  obtain ⟨-, m, e, written, same, -⟩ | ⟨full, -⟩ := parts_signed negative aligned
  · simp only [value, written, same]
  · omega

private theorem eq_of_toBits {x y : Float} (same : x.toBits.toNat = y.toBits.toNat) : x = y := by
  obtain ⟨⟨bits, _⟩⟩ := x
  obtain ⟨⟨others, _⟩⟩ := y
  have equal : bits = others := UInt64.toNat_inj.mp same
  subst equal
  rfl

/-- What arithmetic packs is the number of its sign and its magnitude. -/
theorem ofModel_pack_finite {mantissa : Nat} {exponent : Int}
    (canonical : Canonical mantissa exponent) (sign : Sign) (positive : 0 < mantissa) :
    Float.ofModel (Float.Model.pack (.finite sign mantissa exponent positive)) =
      signed (isMinus sign) (magnitudeOf mantissa exponent) := by
  refine eq_of_toBits ?_
  rw [toBits_signed _ (magnitudeOf_le mantissa exponent)]
  refine (toNat_pack_finite canonical sign positive).trans ?_
  cases sign <;> simp [isMinus, Sign.toBitVec]

end TurtleScript.Binary64
