import TurtleScript.Proofs.Sums
import TurtleScript.Turtle.Geometry

/-!
Full turns. A finite number of degrees is brought into the range from 0 to below 360: what is left
after the full turns are taken off is found exactly, what falls short of 0 gets one full turn more
without becoming negative, and where that rounds to 360 the heading is 0. The sums on the way are
finite because a heading in range is small.
-/
namespace TurtleScript

/-! ## Order -/

namespace Binary64

open Float.Model Float.Model.UnpackedFloat

variable {x y : Float}

private theorem le_iff : x ≤ y ↔ (x.toModel.unpack.compare y.toModel.unpack).any (·.isLE) = true :=
  ⟨fun below => of_decide_eq_true below, fun below => decide_eq_true below⟩

private theorem lt_iff : x < y ↔ x.toModel.unpack.compare y.toModel.unpack = some .lt :=
  ⟨fun below => beq_iff_eq.mp (of_decide_eq_true below),
    fun below => decide_eq_true (beq_iff_eq.mpr below)⟩

/-- What is not below zero is a zero or positive. -/
private theorem unpack_of_zero_le (order : 0.0 ≤ x) :
    x.toModel.unpack = .infinity .positive ∨ (∃ sign, x.toModel.unpack = .zero sign) ∨
      ∃ m e positive, x.toModel.unpack = .finite .positive m e positive := by
  have compared : (UnpackedFloat.compare (.zero .positive) x.toModel.unpack).any (·.isLE) = true :=
    le_iff.mp order
  cases unpacked : x.toModel.unpack with
  | notANumber =>
    rw [unpacked] at compared
    cases compared
  | zero sign => exact .inr (.inl ⟨sign, rfl⟩)
  | infinity sign =>
    cases sign with
    | positive => exact .inl rfl
    | negative =>
      rw [unpacked] at compared
      cases compared
  | finite sign m e positive =>
    cases sign with
    | positive => exact .inr (.inr ⟨m, e, positive, rfl⟩)
    | negative =>
      rw [unpacked] at compared
      cases compared

/-- What has no minus sign is not below zero. -/
private theorem zero_le_signed {mantissa : Nat} {exponent : Int}
    (aligned : Aligned mantissa exponent) : 0.0 ≤ signed false (magnitudeOf mantissa exponent) := by
  have unsigned : ∀ parts, partsOf (signed false (magnitudeOf mantissa exponent)).toModel.unpack =
      parts → (∃ m e, parts = .finite false m e) ∨ parts = .infinite false := by
    rintro _ rfl
    rw [← parts_eq]
    obtain ⟨-, m, e, written, -, -⟩ | ⟨-, written⟩ := parts_signed false aligned
    · exact .inl ⟨m, e, written⟩
    · exact .inr written
  refine le_iff.mpr ?_
  change (UnpackedFloat.compare (.zero .positive) _).any (·.isLE) = true
  generalize (signed false (magnitudeOf mantissa exponent)).toModel.unpack = unpacked at unsigned ⊢
  cases unpacked with
  | notANumber => obtain ⟨_, _, wrong⟩ | wrong := unsigned .nan rfl <;> cases wrong
  | zero sign => rfl
  | infinity sign =>
    cases sign with
    | positive => rfl
    | negative => obtain ⟨_, _, wrong⟩ | wrong := unsigned (.infinite true) rfl <;> cases wrong
  | finite sign m e positive =>
    cases sign with
    | positive => rfl
    | negative => obtain ⟨_, _, wrong⟩ | wrong := unsigned (.finite true m e) rfl <;> cases wrong

private theorem unpack_fullTurn : ∃ positive,
    (360.0 : Float).toModel.unpack = .finite .positive (360 * 2 ^ 44) (-44) positive :=
  ⟨by decide, by rfl⟩

/-- What is not below zero is below a full turn unless it reaches it. -/
private theorem lt_fullTurn (order : 0.0 ≤ x) (short : ¬ 360.0 ≤ x) : x < 360.0 := by
  obtain ⟨whole, turn⟩ := unpack_fullTurn
  rw [le_iff, turn] at short
  rw [lt_iff, turn]
  obtain unpacked | ⟨sign, unpacked⟩ | ⟨m, e, positive, unpacked⟩ := unpack_of_zero_le order
  · rw [unpacked] at short
    exact absurd rfl short
  · rw [unpacked]
    rfl
  · rw [unpacked] at short ⊢
    change ¬ ((compare (-44) e).then (compare (360 * 2 ^ 44) m)).isLE = true at short
    change some ((compare e (-44)).then (compare m (360 * 2 ^ 44))) = _
    have swapped : (compare e (-44)).then (compare m (360 * 2 ^ 44)) =
        ((compare (-44) e).then (compare (360 * 2 ^ 44) m)).swap := by
      rw [Ordering.swap_then, ← Std.OrientedCmp.eq_swap, ← Std.OrientedCmp.eq_swap]
    rw [swapped]
    generalize (compare (-44) e).then (compare (360 * 2 ^ 44) m) = order at short
    cases order with
    | gt => rfl
    | lt | eq => exact absurd rfl short

end Binary64

/-! ## Full turns -/

/-- Degrees from 0 to below 360. -/
def Bearing (angle : Float) : Prop := 0.0 ≤ angle ∧ angle < 360.0

instance : DecidablePred Bearing := fun angle =>
  inferInstanceAs (Decidable (0.0 ≤ angle ∧ angle < 360.0))

namespace Binary64

open Float.Model Float.Model.UnpackedFloat

variable {x y : Float}

/-- A heading in range is a small number. -/
private theorem small_of_bearing (bearing : Bearing x) :
    x.isFinite = true ∧ |value x| ≤ 2 ^ 10 := by
  obtain ⟨order, short⟩ := bearing
  obtain ⟨whole, turn⟩ := unpack_fullTurn
  rw [lt_iff, turn] at short
  change x.toModel.unpack.isFinite = true ∧ _
  rw [value_eq]
  obtain unpacked | ⟨sign, unpacked⟩ | ⟨m, e, positive, unpacked⟩ := unpack_of_zero_le order
  · rw [unpacked] at short
    cases short
  · rw [unpacked]
    refine ⟨rfl, ?_⟩
    change |(0 : ℚ)| ≤ 2 ^ 10
    norm_num
  · have written : parts x = .finite false m e := by
      rw [parts_eq, unpacked]
      rfl
    have below := (canonical_of_parts written).1.below
    rw [unpacked] at short ⊢
    refine ⟨rfl, ?_⟩
    have exponents : e ≤ -44 := by
      by_contra above
      have greater : compare e (-44) = .gt := Int.compare_eq_gt.mpr (by omega)
      change some ((compare e (-44)).then (compare m (360 * 2 ^ 44))) = _ at short
      rw [greater] at short
      cases short
    have digits : (m : ℚ) ≤ 2 ^ 53 := by exact_mod_cast below.le
    change |(m : ℚ) * 2 ^ e| ≤ 2 ^ 10
    rw [abs_of_nonneg (by positivity)]
    calc (m : ℚ) * 2 ^ e ≤ 2 ^ 53 * 2 ^ (-44 : Int) := by
          gcongr
          exact one_le_two
      _ ≤ 2 ^ 10 := by norm_num

/-- Scaling is exact where 53 bits suffice. -/
private theorem scaled_exact (negative : Bool) {mantissa : Nat} {exponent : Int}
    (below : mantissa < 2 ^ 53) (least : -1074 ≤ exponent)
    (small : (mantissa : ℚ) * 2 ^ exponent ≤ 2 ^ 10) :
    (scaled negative mantissa exponent).isFinite = true ∧
      value (scaled negative mantissa exponent) =
        (if negative then -1 else 1) * (mantissa * 2 ^ exponent) := by
  obtain ⟨rounded, target, rounds, bits⟩ := scaled_rounds negative mantissa exponent
  have exact : (rounded : ℚ) * 2 ^ target = mantissa * 2 ^ exponent := by
    have digits : |(mantissa : Int)| < 2 ^ 53 := by
      rw [Nat.abs_cast]
      exact_mod_cast below
    have near := (rounds.nearest_of_digits digits least).1
    rw [Int.cast_natCast, sub_self, abs_zero] at near
    exact (sub_eq_zero.mp (abs_nonpos_iff.mp near)).symm
  have finite : magnitudeOf rounded target < 0x7FF * 2 ^ 52 := by
    have far : (2 : ℚ) ^ 10 < 2 ^ (970 : Int) :=
      zpow_lt_zpow_right₀ one_lt_two (by decide : (10 : Int) < 970)
    rw [rounds.finite_iff, Rounds.limit_eq]
    generalize (2 : ℚ) ^ (970 : Int) = step at far ⊢
    linarith
  rw [bits]
  exact ⟨(isFinite_signed negative rounds.aligned).mpr finite,
    (value_signed negative rounds.aligned finite).trans (by rw [exact])⟩

private theorem value_fullTurn : (360.0 : Float).isFinite = true ∧ value 360.0 = 360 := by
  obtain ⟨whole, turn⟩ := unpack_fullTurn
  change (360.0 : Float).toModel.unpack.isFinite = true ∧ _
  rw [value_eq, turn]
  refine ⟨rfl, ?_⟩
  change ((360 * 2 ^ 44 : Nat) : ℚ) * 2 ^ (-44 : Int) = 360
  norm_num

/-- What is left of a finite number after the full turns are taken off is found exactly. -/
private theorem rest_exact (negative : Bool) {mantissa : Nat} {exponent : Int}
    (canonical : Canonical mantissa exponent) :
    ∃ (m : Nat) (e : Int), m < 2 ^ 53 ∧ -1074 ≤ e ∧ (m : ℚ) * 2 ^ e < 360 ∧
      (if 0 ≤ exponent then scaled negative (mantissa * twoTo exponent.toNat % 360) 0
        else scaled negative (mantissa % (360 * twoTo (-exponent).toNat)) exponent) =
        scaled negative m e := by
  split
  · have short : mantissa * twoTo exponent.toNat % 360 < 360 := Nat.mod_lt _ (by decide)
    refine ⟨_, 0, by omega, by decide, ?_, rfl⟩
    rw [zpow_zero, mul_one]
    exact_mod_cast short
  · have turns : 0 < 360 * twoTo (-exponent).toNat :=
      Nat.mul_pos (by decide) (Nat.two_pow_pos _)
    have short := Nat.mod_lt mantissa turns
    have least := Nat.mod_le mantissa (360 * twoTo (-exponent).toNat)
    refine ⟨_, exponent, Nat.lt_of_le_of_lt least canonical.below, canonical.least, ?_, rfl⟩
    have unit := twoTo_mul_zpow_of_nonpos (by omega : exponent ≤ 0)
    calc ((mantissa % (360 * twoTo (-exponent).toNat) : Nat) : ℚ) * 2 ^ exponent
        < (360 * twoTo (-exponent).toNat : Nat) * 2 ^ exponent := by gcongr
      _ = 360 := by rw [Nat.cast_mul, mul_assoc, unit, mul_one, Nat.cast_ofNat]

/-- What is brought into the range of a full turn is not below zero. -/
private theorem zero_le_modulo (finite : x.isFinite = true) : 0.0 ≤ modulo x 360 := by
  obtain ⟨negative, mantissa, exponent, written⟩ := isFinite_iff.mp finite
  obtain ⟨m, e, below, least, short, rest⟩ :=
    rest_exact negative (canonical_of_parts written).1
  unfold modulo
  rw [written]
  dsimp only
  rw [rest]
  split
  · decide +kernel
  · cases negative with
    | false =>
      obtain ⟨rounded, target, rounds, bits⟩ := scaled_rounds false m e
      rw [bits]
      exact zero_le_signed rounds.aligned
    | true =>
      obtain ⟨left, amount⟩ := scaled_exact true below least (by linarith)
      obtain ⟨whole, turn⟩ := value_fullTurn
      have positive : 0 < value (scaled true m e) + value 360.0 := by
        rw [amount, turn, if_pos rfl]
        linarith
      obtain ⟨rounded, target, aligned, sum⟩ := add_eq_signed left whole positive
      have divisor : ofInt (360 : Nat) = 360.0 := by decide +kernel
      rw [if_pos rfl, divisor, sum]
      exact zero_le_signed aligned

end Binary64

/-- A finite number of degrees is brought into range. -/
theorem normalizeAngle_bearing {angle : Float} (finite : angle.isFinite = true) :
    Bearing (normalizeAngle angle) := by
  have order := Binary64.zero_le_modulo finite
  unfold normalizeAngle
  dsimp only
  split
  · decide +kernel
  · rename_i short
    exact ⟨order, Binary64.lt_fullTurn order short⟩

/-- From a heading in range a turn to the left by a finite number of degrees leads to one. -/
theorem left_bearing {angle degrees : Float} (bearing : Bearing angle)
    (finite : degrees.isFinite = true) : Bearing (normalizeAngle (angle + degrees)) := by
  obtain ⟨number, small⟩ := Binary64.small_of_bearing bearing
  refine normalizeAngle_bearing (Binary64.isFinite_add number finite ?_)
  rw [add_comm]
  exact Binary64.abs_value_add_lt finite small

theorem right_bearing {angle degrees : Float} (bearing : Bearing angle)
    (finite : degrees.isFinite = true) : Bearing (normalizeAngle (angle - degrees + 360.0)) := by
  obtain ⟨number, small⟩ := Binary64.small_of_bearing bearing
  have difference : (angle - degrees).isFinite = true := by
    refine Binary64.isFinite_sub number finite ?_
    rw [abs_sub_comm, sub_eq_add_neg]
    exact Binary64.abs_value_add_lt finite (by rwa [abs_neg])
  obtain ⟨whole, turn⟩ := Binary64.value_fullTurn
  refine normalizeAngle_bearing (Binary64.isFinite_add difference whole ?_)
  refine Binary64.abs_value_add_lt difference ?_
  rw [turn]
  norm_num

end TurtleScript
