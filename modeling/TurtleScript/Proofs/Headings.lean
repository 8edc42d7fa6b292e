import Mathlib.Algebra.Group.Nat.Defs
import TurtleScript.Proofs.Applying
import TurtleScript.Proofs.Contract
import TurtleScript.Proofs.ExactValues

/-!
Headings that can be steered by. A turn brings the new heading into range, and whatever is brought
into range is far from the infinities: it is not a number, or it is so small that nothing which is
done to it on the way to its sine can grow out of double precision.
-/
namespace TurtleScript

/-! ## Magnitudes -/

namespace Binary64

open Float.Model Float.Model.UnpackedFloat

/-- Not infinite, and below two to the bound if it is a number. -/
def Within (bound : Int) : UnpackedFloat → Prop
  | .infinity _ => False
  | .notANumber | .zero _ => True
  | .finite _ mantissa exponent _ => totalExponent mantissa exponent ≤ bound

private theorem Within.mono {low high : Int} (order : low ≤ high) {x : UnpackedFloat}
    (within : Within low x) : Within high x := by
  cases x with
  | infinity => exact within
  | notANumber | zero => trivial
  | finite sign mantissa exponent positive => exact Int.le_trans within order

theorem Within.not_isInf {bound : Int} {x : Float} (within : Within bound x.toModel.unpack) :
    x.isInf = false := by
  change x.toModel.unpack.isInf = false
  cases unpacked : x.toModel.unpack with
  | infinity sign =>
    rw [unpacked] at within
    exact within.elim
  | _ => rfl

private theorem log2_le_of_lt {n k : Nat} (small : n < 2 ^ (k + 1)) : n.log2 ≤ k := by
  by_cases zero : n = 0
  · simp [zero]
  · exact Nat.le_of_lt_succ ((Nat.log2_lt zero).mpr small)

private theorem log2_of_div {n k : Nat} (filled : n / 2 ^ k ≠ 0) :
    (n / 2 ^ k).log2 + k ≤ n.log2 := by
  have nonzero : n ≠ 0 := by
    rintro rfl
    simp at filled
  refine (Nat.le_log2 nonzero).mpr ?_
  calc 2 ^ ((n / 2 ^ k).log2 + k) = 2 ^ (n / 2 ^ k).log2 * 2 ^ k := Nat.pow_add ..
    _ ≤ n / 2 ^ k * 2 ^ k := Nat.mul_le_mul_right _ (Nat.log2_self_le filled)
    _ ≤ n := Nat.div_mul_le_self n (2 ^ k)

private theorem log2_le_log2 {m n : Nat} (order : m ≤ n) : m.log2 ≤ n.log2 :=
  log2_le_of_lt (Nat.lt_of_le_of_lt order Nat.lt_log2_self)

private theorem log2_succ_le {n : Nat} (positive : 0 < n) : (n + 1).log2 ≤ n.log2 + 1 := by
  refine log2_le_of_lt ?_
  have below : n < 2 ^ (n.log2 + 1) := Nat.lt_log2_self
  rw [Nat.pow_succ]
  omega

private theorem mantissa_shift (m : ExtendedMantissa) (count : Nat) :
    (m >>> count).mantissa = m.mantissa / 2 ^ count := by
  induction count with
  | zero => simp [HShiftRight.hShiftRight, Nat.repeat]
  | succ count ih =>
    change (m >>> count).mantissa / 2 = _
    rw [ih, Nat.div_div_eq_div_mul, Nat.pow_succ]

private theorem mantissa_ofAccuracy (n : Nat) (accuracy : Accuracy) :
    (ExtendedMantissa.ofMantissaAndAccuracy n accuracy).mantissa = n := by
  rcases accuracy with _ | (_ | _ | _) <;> rfl

private theorem roundedMantissa_le (m : ExtendedMantissa) :
    m.roundedMantissa ≤ m.mantissa + 1 := by
  obtain ⟨n, roundBit, stickyBit⟩ := m
  cases roundBit <;> cases stickyBit <;>
    simp [ExtendedMantissa.roundedMantissa, ExtendedMantissa.accuracy,
      Accuracy.roundToNearestEven]
  omega

private theorem within_of_filled {bound : Int} {sign : Sign} {n : Nat} {exponent : Int}
    (small : n ≠ 0 → totalExponent n exponent ≤ bound) :
    Within bound (if empty : n = 0 then .zero sign
      else .finite sign n exponent (Nat.pos_of_ne_zero empty)) := by
  by_cases empty : n = 0
  · rw [dif_pos empty]
    trivial
  · rw [dif_neg empty]
    exact small empty

/-- Rounding at most doubles a magnitude. -/
private theorem roundWithAccuracy_within {bound : Int} (normal : -1073 ≤ bound) (sign : Sign)
    {n : Nat} {exponent : Int} (accuracy : Accuracy)
    (small : totalExponent n exponent ≤ bound) :
    Within (bound + 1) (roundWithAccuracy .binary64 sign n exponent accuracy) := by
  have target : ∀ total, Format.binary64.targetExponent total = max (total - 53) (-1074) :=
    fun total => by simp only [Format.targetExponent]; rfl
  unfold roundWithAccuracy shiftToTargetExponent shiftToExponent
  refine within_of_filled fun filled => ?_
  simp only [mantissa_shift, mantissa_ofAccuracy, target] at filled ⊢
  generalize amount : (max (totalExponent n exponent - 53) (-1074) - exponent).toNat = count
    at filled ⊢
  generalize rounded : ExtendedMantissa.roundedMantissa _ = r at filled ⊢
  generalize (max (totalExponent r (exponent + count) - 53) (-1074) -
    (exponent + count)).toNat = again at filled ⊢
  have roundedLe : r ≤ n / 2 ^ count + 1 := by
    have bound := roundedMantissa_le (ExtendedMantissa.ofMantissaAndAccuracy n accuracy >>> count)
    rwa [rounded, mantissa_shift, mantissa_ofAccuracy] at bound
  unfold totalExponent at small amount ⊢
  have final := log2_of_div filled
  by_cases emptied : n / 2 ^ count = 0
  · have zero : r.log2 ≤ 0 := log2_le_of_lt (by omega)
    omega
  · have shifted := log2_of_div emptied
    have carried := log2_succ_le (Nat.pos_of_ne_zero emptied)
    have most := log2_le_log2 roundedLe
    omega

private theorem totalExponent_shifted {n : Nat} {exponent : Int} (count : Nat) :
    totalExponent (n <<< count) (exponent - count) ≤ totalExponent n exponent := by
  have below : n <<< count < 2 ^ (n.log2 + count + 1) := by
    rw [Nat.shiftLeft_eq, show n.log2 + count + 1 = n.log2 + 1 + count by omega, Nat.pow_add]
    exact Nat.mul_lt_mul_of_pos_right Nat.lt_log2_self (Nat.two_pow_pos count)
  have log := log2_le_of_lt below
  unfold totalExponent
  omega

private theorem normalize_within {bound : Int} (normal : -1073 ≤ bound) {mantissa exponent : Int}
    (sign : Sign) (small : totalExponent mantissa.natAbs exponent ≤ bound) :
    Within (bound + 1) (UnpackedFloat.normalize .binary64 mantissa exponent sign) := by
  have rounds : ∀ sign, Within (bound + 1) (round .binary64 sign mantissa.natAbs exponent) :=
    fun sign => roundWithAccuracy_within normal sign .exact
      (Int.le_trans (totalExponent_shifted _) small)
  unfold UnpackedFloat.normalize
  split
  · rename_i negative
    have magnitude : (-mantissa).toNat = mantissa.natAbs := by
      have := Int.compare_eq_lt.mp negative
      omega
    rw [magnitude]
    exact rounds .negative
  · trivial
  · rename_i positive
    have magnitude : mantissa.toNat = mantissa.natAbs := by
      have := Int.compare_eq_gt.mp positive
      omega
    rw [magnitude]
    exact rounds .positive

private theorem shifted_lt {n : Nat} {exponent least bound : Int} (order : least ≤ exponent)
    (small : totalExponent n exponent ≤ bound) :
    n <<< (exponent - least).toNat < 2 ^ (bound - least).toNat := by
  unfold totalExponent at small
  calc n <<< (exponent - least).toNat < 2 ^ (n.log2 + 1) * 2 ^ (exponent - least).toNat := by
        rw [Nat.shiftLeft_eq]
        exact Nat.mul_lt_mul_of_pos_right Nat.lt_log2_self (Nat.two_pow_pos _)
    _ = 2 ^ (n.log2 + 1 + (exponent - least).toNat) := (Nat.pow_add ..).symm
    _ ≤ 2 ^ (bound - least).toNat := Nat.pow_le_pow_right (by decide) (by omega)

private theorem natAbs_add_lt (sign other : Sign) {a b limit : Nat} (left : a < limit)
    (right : b < limit) : (sign.apply a + other.apply b).natAbs < limit * 2 := by
  cases sign <;> cases other <;> simp only [Sign.apply] <;> omega

/-- A sum is at most four times as large as the greater of its parts may be. -/
private theorem add_within {bound : Int} (normal : -1074 ≤ bound) {x y : UnpackedFloat}
    (first : Within bound x) (second : Within bound y) :
    Within (bound + 2) (UnpackedFloat.add .binary64 x y) := by
  have wider : bound ≤ bound + 2 := by omega
  cases x with
  | infinity => exact first.elim
  | notANumber => trivial
  | zero sign =>
    cases y with
    | infinity => exact second.elim
    | notANumber => trivial
    | zero other => cases sign <;> cases other <;> trivial
    | finite => exact second.mono wider
  | finite sign m e positive =>
    cases y with
    | infinity => exact second.elim
    | notANumber => trivial
    | zero other => exact first.mono wider
    | finite other n f filled =>
      have left := shifted_lt (Int.min_le_left e f) first
      have right := shifted_lt (Int.min_le_right e f) second
      have sum : (sign.apply (m <<< (e - min e f).toNat : Nat) +
          other.apply (n <<< (f - min e f).toNat : Nat)).natAbs <
            2 ^ ((bound - min e f).toNat + 1) :=
        natAbs_add_lt sign other left right
      have log := log2_le_of_lt sum
      have small : (e : Int) < bound := by
        have total : totalExponent m e ≤ bound := first
        unfold totalExponent at total
        omega
      have total : totalExponent (sign.apply (m <<< (e - min e f).toNat : Nat) +
          other.apply (n <<< (f - min e f).toNat : Nat)).natAbs (min e f) ≤ bound + 1 := by
        unfold totalExponent
        omega
      have rounded := normalize_within (by omega) .positive total
      rwa [Int.add_assoc] at rounded

/-- A product is at most twice as large as the product of the bounds. -/
private theorem mul_within {bound other : Int} (normal : -1073 ≤ bound + other)
    {x y : UnpackedFloat} (first : Within bound x) (second : Within other y) :
    Within (bound + other + 1) (UnpackedFloat.mul .binary64 x y) := by
  cases x with
  | infinity => exact first.elim
  | notANumber => trivial
  | zero sign =>
    cases y with
    | infinity => exact second.elim
    | notANumber | zero | finite => trivial
  | finite sign m e positive =>
    cases y with
    | infinity => exact second.elim
    | notANumber | zero => trivial
    | finite other n f filled =>
      refine roundWithAccuracy_within normal _ .exact ?_
      have product : m * n < 2 ^ (m.log2 + n.log2 + 1 + 1) :=
        calc m * n < 2 ^ (m.log2 + 1) * 2 ^ (n.log2 + 1) :=
              Nat.mul_lt_mul'' Nat.lt_log2_self Nat.lt_log2_self
          _ = 2 ^ (m.log2 + n.log2 + 1 + 1) := by rw [← Nat.pow_add]; congr 1; omega
      have log := log2_le_of_lt product
      have left : totalExponent m e ≤ bound := first
      have right : totalExponent n f ≤ _ := second
      unfold totalExponent at left right ⊢
      omega

/-- What is written in bits is as large as its exponent says. -/
private theorem unpack_within {bound : Int} (low : -1022 ≤ bound) (high : bound ≤ 1024)
    {bits : BitVec 64}
    (field : ((@unpackExponent .binary64 bits).toNat : Int) ≤ bound + 1022) :
    Within bound (UnpackedFloat.unpack .binary64 bits) := by
  have bias : (Format.binary64.exponentBias : Int) = 1023 := by decide
  unfold UnpackedFloat.unpack
  dsimp only
  by_cases ones : @unpackExponent .binary64 bits = -1#11
  · rw [ones] at field
    have greatest : (-1#11 : BitVec 11).toNat = 2047 := by decide
    omega
  · rw [if_neg ones]
    by_cases least : @unpackExponent .binary64 bits = 0#11
    · rw [if_pos least, least]
      by_cases empty : @unpackMantissa .binary64 bits = 0#52
      · rw [dif_pos empty]
        trivial
      · rw [dif_neg empty]
        have log := log2_le_of_lt (n := (@unpackMantissa .binary64 bits).toNat)
          (k := 51) (BitVec.isLt _)
        change (_ : Int) ≤ _
        unfold totalExponent
        rw [bias]
        have zero : (0#11 : BitVec 11).toNat = 0 := rfl
        omega
    · rw [if_neg least]
      have log := log2_le_of_lt (n := (1#1 ++ @unpackMantissa .binary64 bits).toNat)
        (k := 52) (BitVec.isLt _)
      change (_ : Int) ≤ _
      unfold totalExponent
      rw [bias]
      omega

/-- Packing keeps what is neither too large for a normal number nor smaller than one. -/
private theorem pack_within {bound : Int} (low : -1022 ≤ bound) (high : bound ≤ 900)
    {x : UnpackedFloat} (within : Within bound x) :
    Within bound (Float.Model.pack x).unpack := by
  cases x with
  | infinity => exact within.elim
  | notANumber => trivial
  | zero sign => cases sign <;> trivial
  | finite sign m e positive =>
    have small : totalExponent m e ≤ bound := within
    have bias : (Format.binary64.exponentBias : Int) = 1023 := by decide
    unfold totalExponent at small
    refine unpack_within low (by omega) ?_
    change ((unpackExponent (UnpackedFloat.pack .binary64 (.finite sign m e positive))).toNat : Int)
      ≤ _
    unfold UnpackedFloat.pack
    dsimp only
    rw [bias]
    split
    · rename_i tooLarge
      have width : 2 ^ Format.binary64.exponentBits = 2048 := by decide
      omega
    · split
      · rename_i full
        have digits : m.log2 + 1 = 53 := full
        rw [unpackExponent_packComponents, BitVec.toNat_ofNat]
        have reduced := Nat.mod_le (e + 1023 + 52).toNat (2 ^ 11)
        omega
      · rw [unpackExponent_packComponents]
        have zero : (0#11 : BitVec 11).toNat = 0 := rfl
        omega

/-! ## Bits -/

/-- What has no parts is not a number. -/
private theorem unpack_of_parts_nan {x : Float} (none : parts x = .nan) :
    x.toModel.unpack = .notANumber := by
  rw [parts_eq] at none
  cases unpacked : x.toModel.unpack with
  | notANumber => rfl
  | infinity | zero | finite =>
    rw [unpacked] at none
    cases none

private theorem signed_within {bound : Int} (low : -1022 ≤ bound) (high : bound ≤ 900)
    (negative : Bool) {bits : Nat} (field : (bits : Int) < (bound + 1023) * twoTo 52) :
    Within bound (signed negative bits).toModel.unpack := by
  refine pack_within low high (unpack_within low (by omega) ?_)
  rw [toNat_unpackExponent]
  have size : twoTo 52 = 4503599627370496 := by decide
  have sign : twoTo 63 = 9223372036854775808 := by decide
  have width : twoTo 11 = 2048 := by decide
  have value : ∀ n < 18446744073709551616, (UInt64.ofNat n).toBitVec.toNat = n :=
    fun n small => Nat.mod_eq_of_lt small
  rw [size] at field
  rw [value _ (by split <;> omega), size, width, sign]
  split <;> omega

private theorem roundDropped_le (mantissa drop : Nat) (more : Bool) :
    roundDropped mantissa drop more ≤ mantissa / 2 ^ drop + 1 := by
  unfold roundDropped
  dsimp only
  split
  · exact Nat.le_refl _
  · exact Nat.le_succ _

/-- What is rounded for its target has at most 53 bits, or is the next power of two. -/
private theorem rounded_le (mantissa : Nat) (drop : Int)
    (enough : (mantissa.log2 : Int) - 52 ≤ drop) (more : Bool) :
    (if drop ≤ 0 then mantissa * twoTo (-drop).toNat
      else if drop > Int.ofNat (mantissa.log2 + 2) then 0
      else roundDropped mantissa drop.toNat more) ≤ 2 ^ 53 := by
  split
  · calc mantissa * 2 ^ (-drop).toNat ≤ 2 ^ (mantissa.log2 + 1) * 2 ^ (-drop).toNat :=
          Nat.mul_le_mul_right _ (Nat.le_of_lt Nat.lt_log2_self)
      _ = 2 ^ (mantissa.log2 + 1 + (-drop).toNat) := (Nat.pow_add ..).symm
      _ ≤ 2 ^ 53 := Nat.pow_le_pow_right (by decide) (by omega)
  · split
    · exact Nat.zero_le _
    · have below : mantissa < 2 ^ 53 * 2 ^ drop.toNat :=
        calc mantissa < 2 ^ (mantissa.log2 + 1) := Nat.lt_log2_self
          _ ≤ 2 ^ (53 + drop.toNat) := Nat.pow_le_pow_right (by decide) (by omega)
          _ = 2 ^ 53 * 2 ^ drop.toNat := Nat.pow_add ..
      have quotient : mantissa / 2 ^ drop.toNat < 2 ^ 53 :=
        (Nat.div_lt_iff_lt_mul (Nat.two_pow_pos _)).mpr below
      exact Nat.le_trans (roundDropped_le ..) quotient

/-- The nearest number is at most twice as large as what it is nearest to may be. -/
private theorem scaled_within (bound : Int) (low : -1021 ≤ bound) (high : bound ≤ 899)
    (negative : Bool) {mantissa : Nat} {exponent : Int}
    (small : mantissa ≠ 0 → totalExponent mantissa exponent ≤ bound) :
    Within (bound + 1) (scaled negative mantissa exponent).toModel.unpack := by
  refine signed_within (by omega) (by omega) negative ?_
  have size : twoTo 52 = 4503599627370496 := by decide
  unfold magnitudeBits
  split
  · rw [size]
    omega
  · rename_i filled
    have total := small filled
    unfold totalExponent at total
    dsimp only
    have digits : Int.ofNat (mantissa.log2 + 1) = mantissa.log2 + 1 := rfl
    rw [digits]
    generalize top : max ((mantissa.log2 : Int) + 1 + exponent - 53) (-1074) = target
    have rounded := rounded_le mantissa (target - exponent) (by omega) false
    generalize (if target - exponent ≤ 0 then _ else _ : Nat) = r at rounded ⊢
    have least := Nat.min_le_left ((target + 1074).toNat * twoTo 52 + r) (0x7FF * twoTo 52)
    generalize min ((target + 1074).toNat * twoTo 52 + r) (0x7FF * twoTo 52) = bits at least ⊢
    rw [size] at least ⊢
    omega

/-! ## Remainders -/

instance (bound : Int) : DecidablePred (Within bound)
  | .infinity _ => isFalse id
  | .notANumber | .zero _ => isTrue trivial
  | .finite _ mantissa exponent _ =>
    inferInstanceAs (Decidable (totalExponent mantissa exponent ≤ bound))

private theorem add_float_within (bound : Int) (low : -1024 ≤ bound) (high : bound ≤ 898)
    {x y : Float} (first : Within bound x.toModel.unpack) (second : Within bound y.toModel.unpack) :
    Within (bound + 2) (x + y).toModel.unpack :=
  pack_within (by omega) (by omega) (add_within (by omega) first second)

private theorem mul_float_within {bound other : Int} (low : -1023 ≤ bound + other)
    (high : bound + other ≤ 899) {x y : Float} (first : Within bound x.toModel.unpack)
    (second : Within other y.toModel.unpack) :
    Within (bound + other + 1) (x * y).toModel.unpack :=
  pack_within (by omega) (by omega) (mul_within (by omega) first second)

/-- What is left of a finite number after the full turns are taken off. -/
private theorem rest_within (negative : Bool) (mantissa : Nat) (exponent : Int) :
    Within 10 (if 0 ≤ exponent then
        scaled negative (mantissa * twoTo exponent.toNat % 360) 0
      else
        scaled negative (mantissa % (360 * twoTo (-exponent).toNat)) exponent).toModel.unpack := by
  split
  · refine scaled_within 9 (by decide) (by decide) negative fun _ => ?_
    have log := log2_le_of_lt (n := mantissa * twoTo exponent.toNat % 360) (k := 8)
      (Nat.lt_trans (Nat.mod_lt _ (by decide)) (by decide))
    unfold totalExponent
    omega
  · rename_i small
    refine scaled_within 9 (by decide) (by decide) negative fun _ => ?_
    have below : mantissa % (360 * twoTo (-exponent).toNat) < 2 ^ (8 + (-exponent).toNat + 1) :=
      calc mantissa % (360 * twoTo (-exponent).toNat) < 360 * 2 ^ (-exponent).toNat :=
            Nat.mod_lt _ (Nat.mul_pos (by decide) (Nat.two_pow_pos _))
        _ ≤ 2 ^ 9 * 2 ^ (-exponent).toNat := Nat.mul_le_mul_right _ (by decide)
        _ = 2 ^ (8 + (-exponent).toNat + 1) := by rw [← Nat.pow_add]; congr 1; omega
    have log := log2_le_of_lt below
    unfold totalExponent
    omega

/-- Whatever is brought into the range of a full turn stays far below the infinities. -/
private theorem modulo_within (x : Float) : Within 12 (modulo x 360).toModel.unpack := by
  unfold modulo
  split
  · rename_i none
    rw [unpack_of_parts_nan none]
    trivial
  · decide +kernel
  · rename_i negative mantissa exponent _
    have rest := rest_within negative mantissa exponent
    dsimp only
    generalize (if 0 ≤ exponent then _ else _ : Float) = reduced at rest ⊢
    by_cases zero : (reduced == 0.0) = true
    · rw [if_pos zero]
      decide +kernel
    · rw [if_neg zero]
      split
      · exact add_float_within 10 (by decide) (by decide) rest (by decide +kernel)
      · exact rest.mono (by decide)

end Binary64

/-! ## Headings -/

/-- A heading that was brought into range has a sine. -/
theorem radians_normalizeAngle_not_isInf (angle : Float) :
    (radians (normalizeAngle angle)).isInf = false := by
  have reduced : Binary64.Within 12 (normalizeAngle angle).toModel.unpack := by
    unfold normalizeAngle
    dsimp only
    split
    · decide +kernel
    · exact Binary64.modulo_within angle
  have ratio : Binary64.Within (-5) (3.141592653589793 / 180.0 : Float).toModel.unpack := by
    decide +kernel
  exact (Binary64.mul_float_within (by decide) (by decide) reduced ratio).not_isInf

/-- A turn brings the new heading into range, and every other command keeps the heading. -/
private theorem Engine.Obeys.angle {e : Engine} {c : Command} {turtle : Turtle}
    {log : List Instruction} (obeys : e.Obeys c turtle log) :
    turtle.pose.angle = e.turtle.pose.angle ∨
      ∃ angle, turtle.pose.angle = normalizeAngle angle := by
  cases obeys with
  | left | right => exact .inr ⟨_, rfl⟩
  | moved | lifted | lowered | colored | cleared => exact .inl rfl

/-- The turtle's heading has a sine. -/
def Scene.Steerable (scene : Scene) : Prop :=
  (radians scene.turtle.pose.angle).isInf = false

instance : DecidablePred Scene.Steerable := fun scene =>
  inferInstanceAs (Decidable ((radians scene.turtle.pose.angle).isInf = false))

namespace Stage

variable {stage : Stage} {scene : Scene}

private theorem applied_steerable (c : Command) (steerable : scene.Steerable) :
    (stage.applied c scene).scene.Steerable := by
  unfold applied Engine.apply
  cases found : (stage.engine scene).effect c with
  | error error => exact steerable
  | ok effect =>
    obtain ⟨-, obeys⟩ | ⟨rfl, -⟩ := Engine.effect_obeys found
    · change (radians ((stage.engine scene).commit effect).turtle.pose.angle).isInf = false
      obtain kept | ⟨angle, turned⟩ := obeys.angle
      · rw [kept]
        exact steerable
      · rw [turned]
        exact radians_normalizeAngle_not_isInf angle
    · exact steerable

private theorem act_steerable (c : Command) (steerable : scene.Steerable) :
    (stage.act c scene).scene.Steerable := by
  unfold act
  split
  · split
    · exact steerable
    · split
      · exact steerable
      · split
        · exact applied_steerable c steerable
        · exact steerable
  · exact applied_steerable c steerable

theorem actAll_steerable (steps : List Command) (steerable : scene.Steerable) :
    (stage.actAll steps scene).scene.Steerable := by
  induction steps generalizing scene with
  | nil => exact steerable
  | cons c rest ih =>
    have first : (stage.act c scene).scene.Steerable := act_steerable c steerable
    simp only [actAll]
    by_cases through : (stage.act c scene).ending = .through
    · rw [Course.andThen_through through]
      exact ih first
    · rwa [Course.andThen_stopped through]

/-- From a heading that has a sine every program can be steered. -/
theorem steers_of_steerable (steps : List Command) (steerable : scene.Steerable) :
    stage.Steers steps scene := by
  induction steps generalizing scene with
  | nil => trivial
  | cons c rest ih => exact ⟨fun _ => steerable, fun _ => ih (act_steerable c steerable)⟩

end Stage

/-! ## Programs that were read -/

/-- A proper single step has a value that an engine can measure. -/
theorem Command.Primitive.wellFormed {c : Command} (primitive : c.Primitive) : c.WellFormed := by
  obtain ⟨proper, single⟩ := primitive
  cases proper with
  | @valued kind value line column takesNumber finite =>
    cases kind with
    | forward | left | right | back => exact ⟨_, _, rfl, rfl⟩
    | color =>
      obtain ⟨negative, mantissa, exponent, parts⟩ := Binary64.isFinite_iff.mp finite
      refine ⟨.real value, Binary64.floorOf negative mantissa exponent, rfl, ?_⟩
      simp only [Number.floor, Number.wholeBy, parts]
    | penUp | penDown | clear | repetition | other => cases takesNumber
  | @plain kind line column alone =>
    cases kind with
    | penUp | penDown | clear => trivial
    | forward | back | left | right | color | repetition | other => cases alone
  | repeated => exact absurd rfl single

theorem readProgram_proper (keywords : Keywords) (text : String) :
    ∀ c ∈ (readProgram keywords text).commands, c.Proper :=
  readSteps_proper keywords (.ofList (tokens text))

/-- Whatever is read flattens into well-formed steps. -/
theorem readProgram_flatten (keywords : Keywords) (text : String) :
    ∃ steps, Command.flattenAll (readProgram keywords text).commands = .ok steps ∧
      ∀ c ∈ steps, c.WellFormed := by
  obtain ⟨steps, flat, fit⟩ :=
    Command.flattenAll_ok _ fun c member => (readProgram_proper keywords text c member).flatten_ok
  exact ⟨steps, flat, fun c member => (fit c member).wellFormed⟩

end TurtleScript
