import Mathlib.Tactic.FieldSimp
import Mathlib.Tactic.Positivity
import TurtleScript.Proofs.ExactValues

/-!
Rounding is to the nearest number. The bits of a magnitude are found by dropping digits of a whole
mantissa; here they are shown to be those of the number nearest to the exact fraction, of two that
are equally near the one with the even mantissa, and to be infinite exactly from the middle between
the greatest number and the next power of two on.
-/
namespace TurtleScript.Binary64

/-! ## Steps -/

theorem cast_twoTo (power : Nat) : ((twoTo power : Nat) : ℚ) = 2 ^ power := by
  simp [twoTo]

/-- A coarse step is a whole number of fine ones. -/
theorem twoTo_mul_zpow {fine coarse : Int} (order : fine ≤ coarse) :
    ((twoTo (coarse - fine).toNat : Nat) : ℚ) * 2 ^ fine = 2 ^ coarse := by
  rw [cast_twoTo, ← zpow_natCast, ← zpow_add₀ two_ne_zero]
  congr 1
  omega

/-- One is a whole number of the steps of a negative exponent. -/
theorem twoTo_mul_zpow_of_nonpos {exponent : Int} (nonpos : exponent ≤ 0) :
    ((twoTo (-exponent).toNat : Nat) : ℚ) * 2 ^ exponent = 1 := by
  have steps := twoTo_mul_zpow nonpos
  rwa [Int.zero_sub, zpow_zero] at steps

/-! ## Whole numbers -/

/-- A whole number that is nearest to a fraction, and the even one of two. -/
structure NearestWhole (w : ℚ) (n : Nat) : Prop where
  near : |w - n| ≤ 1 / 2
  even : |w - n| = 1 / 2 → n % 2 = 0

namespace NearestWhole

variable {w : ℚ} {n : Nat}

theorem self (n : Nat) : NearestWhole n n := by
  refine ⟨?_, ?_⟩
  · simp
  · intro tie
    norm_num at tie

theorem zero (nonneg : 0 ≤ w) (small : w < 1 / 2) : NearestWhole w 0 := by
  refine ⟨?_, fun _ => rfl⟩
  rw [Nat.cast_zero, sub_zero, abs_of_nonneg nonneg]
  exact small.le

/-- Another whole number is at least half away. -/
private theorem half_le (nearest : NearestWhole w n) {k : ℤ} (other : k ≠ n) :
    1 / 2 ≤ |w - k| := by
  have apart : (1 : ℚ) ≤ |(n : ℚ) - k| := by
    have whole : 1 ≤ |(n : ℤ) - k| := Int.one_le_abs (sub_ne_zero.mpr other.symm)
    exact_mod_cast whole
  have between : |(n : ℚ) - k| ≤ |w - n| + |w - k| := by
    have := abs_sub_le (n : ℚ) w k
    rwa [abs_sub_comm (n : ℚ) w] at this
  have near := nearest.near
  linarith

theorem dist_le (nearest : NearestWhole w n) (k : ℤ) : |w - n| ≤ |w - k| := by
  by_cases same : k = n
  · rw [same, Int.cast_natCast]
  · exact nearest.near.trans (nearest.half_le same)

theorem even_of_tie (nearest : NearestWhole w n) {k : ℤ} (other : k ≠ n)
    (tie : |w - k| = |w - n|) : n % 2 = 0 := by
  refine nearest.even (le_antisymm nearest.near ?_)
  rw [← tie]
  exact nearest.half_le other

end NearestWhole

/-- What is strictly within half a step of a multiple of the step is nearest to it. -/
private theorem nearestWhole_div {u d : ℚ} {n : Nat} (positive : 0 < d)
    (near : |u - n * d| ≤ d / 2) (even : |u - n * d| = d / 2 → n % 2 = 0) :
    NearestWhole (u / d) n := by
  have distance : |u / d - n| = |u - n * d| / d := by
    rw [← abs_of_pos positive, ← abs_div, abs_of_pos positive, sub_div,
      mul_div_cancel_right₀ _ positive.ne']
  refine ⟨?_, ?_⟩
  · rw [distance, div_le_iff₀ positive]
    linarith
  · intro tie
    rw [distance, div_eq_iff positive.ne'] at tie
    exact even (by linarith)

private theorem nearestWhole_of_lt {u d : ℚ} {n : Nat} (positive : 0 < d)
    (near : |u - n * d| < d / 2) : NearestWhole (u / d) n :=
  nearestWhole_div positive near.le fun tie => absurd tie near.ne

/-- Digits are dropped towards the nearest whole number. `u` is the exact value of which the mantissa
is the whole part. -/
private theorem roundDropped_nearest {mantissa drop : Nat} {more : Bool} {u : ℚ}
    (dropped : 0 < drop) (low : mantissa ≤ u) (high : u < mantissa + 1)
    (exact : more = false → u = mantissa) (inexact : more = true → mantissa < u) :
    NearestWhole (u / 2 ^ drop) (roundDropped mantissa drop more) := by
  obtain ⟨less, rfl⟩ : ∃ less, drop = less + 1 := ⟨drop - 1, by omega⟩
  have positive : (0 : ℚ) < 2 ^ (less + 1) := by positivity
  have step : (2 : ℚ) ^ (less + 1) = 2 * (2 ^ less : Nat) := by
    push_cast
    exact pow_succ' 2 less
  have size : twoTo (less + 1) = 2 * 2 ^ less := Nat.pow_succ'
  have whole := Nat.div_add_mod mantissa (2 * 2 ^ less)
  have small := Nat.mod_lt mantissa (Nat.mul_pos two_pos (Nat.two_pow_pos less))
  unfold roundDropped
  rw [size]
  dsimp only
  generalize mantissa / (2 * 2 ^ less) = quotient at *
  generalize mantissa % (2 * 2 ^ less) = rest at *
  generalize 2 ^ less = half at *
  have value : (mantissa : ℚ) = 2 * half * quotient + rest := by exact_mod_cast whole.symm
  rw [value] at low high exact inexact
  rcases Nat.lt_trichotomy rest half with below | middle | above
  · -- The rest and what comes after it are less than a half.
    have room : (rest : ℚ) + 1 ≤ half := by exact_mod_cast below
    rw [if_neg (by simp; omega)]
    refine nearestWhole_of_lt positive (abs_lt.mpr ⟨?_, ?_⟩) <;> rw [step] <;> linarith
  · subst middle
    cases more with
    | true =>
      have beyond := inexact rfl
      have room : (1 : ℚ) ≤ rest := by exact_mod_cast (by omega : 1 ≤ rest)
      rw [if_pos (by simp)]
      refine nearestWhole_of_lt positive (abs_lt.mpr ⟨?_, ?_⟩) <;> rw [step] <;> push_cast <;>
        linarith
    | false =>
      have exactly := exact rfl
      by_cases odd : quotient % 2 = 1
      · rw [if_pos (by simp [odd])]
        refine nearestWhole_div positive (le_of_eq ?_) fun _ => by omega
        have distance : u - (quotient + 1 : Nat) * 2 ^ (less + 1) = -rest := by
          rw [step, exactly]
          push_cast
          ring
        rw [distance, abs_neg, abs_of_nonneg (Nat.cast_nonneg rest), step]
        ring
      · rw [if_neg (by simp; omega)]
        refine nearestWhole_div positive (le_of_eq ?_) fun _ => by omega
        have distance : u - quotient * 2 ^ (less + 1) = rest := by
          rw [step, exactly]
          ring
        rw [distance, abs_of_nonneg (Nat.cast_nonneg rest), step]
        ring
  · have room : (half : ℚ) + 1 ≤ rest := by exact_mod_cast above
    have upper : (rest : ℚ) + 1 ≤ 2 * half := by exact_mod_cast small
    rw [if_pos (by simp; omega)]
    refine nearestWhole_of_lt positive (abs_lt.mpr ⟨?_, ?_⟩) <;> rw [step] <;> push_cast <;> linarith

/-! ## Magnitudes -/

/-- What a mantissa and an exponent stand for: exactly their product, or a fraction that goes on
after more than 53 bits. -/
inductive StandsFor (v : ℚ) (mantissa : Nat) (exponent : Int) : Bool → Prop
  | exactly (equal : v = mantissa * 2 ^ exponent) : StandsFor v mantissa exponent false
  | more (low : mantissa * 2 ^ exponent < v) (high : v < (mantissa + 1) * 2 ^ exponent)
    (wide : 2 ^ 53 ≤ mantissa) : StandsFor v mantissa exponent true

namespace StandsFor

variable {v : ℚ} {mantissa : Nat} {exponent : Int} {more : Bool}

private theorem low (stands : StandsFor v mantissa exponent more) : mantissa * 2 ^ exponent ≤ v := by
  cases stands with
  | exactly equal => exact equal.ge
  | more low => exact low.le

private theorem high (stands : StandsFor v mantissa exponent more) :
    v < (mantissa + 1) * 2 ^ exponent := by
  cases stands with
  | exactly equal =>
    rw [equal]
    exact mul_lt_mul_of_pos_right (lt_add_one _) (zpow_pos two_pos _)
  | more _ high => exact high

private theorem nonneg (stands : StandsFor v mantissa exponent more) : 0 ≤ v :=
  le_trans (by positivity) stands.low

/-- A power of two that the mantissa does not reach is not reached by the fraction either. -/
private theorem lt_of_lt (stands : StandsFor v mantissa exponent more) {digits : Nat}
    (below : mantissa < 2 ^ digits) : v < 2 ^ (digits + exponent) := by
  have room : (mantissa : ℚ) + 1 ≤ 2 ^ digits := by exact_mod_cast below
  calc v < (mantissa + 1) * 2 ^ exponent := stands.high
    _ ≤ 2 ^ digits * 2 ^ exponent := by gcongr
    _ = 2 ^ (digits + exponent) := by rw [zpow_add₀ two_ne_zero, zpow_natCast]

/-- Rounded to a coarser exponent, or to a finer one where it is exact. -/
private theorem nearest (stands : StandsFor v mantissa exponent more) {target : Int}
    (enough : mantissa.log2 + exponent - 52 ≤ target) :
    NearestWhole (v / 2 ^ target)
      (if target - exponent ≤ 0 then mantissa * twoTo (-(target - exponent)).toNat
        else if target - exponent > Int.ofNat (mantissa.log2 + 2) then 0
        else roundDropped mantissa (target - exponent).toNat more) := by
  have positive : (0 : ℚ) < 2 ^ target := zpow_pos two_pos _
  split
  · rename_i finer
    cases stands with
    | exactly equal =>
      have whole : v / 2 ^ target = (mantissa * twoTo (-(target - exponent)).toNat : Nat) := by
        rw [Int.neg_sub, equal, div_eq_iff positive.ne', Nat.cast_mul, mul_assoc,
          twoTo_mul_zpow (by omega)]
      rw [whole]
      exact .self _
    | more _ _ wide =>
      have log := (Nat.le_log2 (by omega)).mpr wide
      omega
  · rename_i coarser
    split
    · rename_i far
      have small : v / 2 ^ target < 1 / 2 := by
        rw [div_lt_iff₀ positive]
        calc v < 2 ^ (((mantissa.log2 + 1 : Nat) : Int) + exponent) :=
              stands.lt_of_lt Nat.lt_log2_self
          _ ≤ 2 ^ (target - 1) := zpow_le_zpow_right₀ one_le_two (by
              rw [Int.ofNat_eq_natCast] at far
              omega)
          _ = 1 / 2 * 2 ^ target := by rw [zpow_sub_one₀ two_ne_zero]; ring
      exact .zero (div_nonneg stands.nonneg positive.le) small
    · have scale : (0 : ℚ) < 2 ^ exponent := zpow_pos two_pos _
      have dropped : v / 2 ^ target = v / 2 ^ exponent / 2 ^ (target - exponent).toNat := by
        rw [div_div, ← zpow_natCast, ← zpow_add₀ two_ne_zero]
        congr 2
        omega
      rw [dropped]
      refine roundDropped_nearest (by omega) ?_ ?_ ?_ ?_
      · rw [le_div_iff₀ scale]
        exact stands.low
      · rw [div_lt_iff₀ scale]
        exact stands.high
      · rintro rfl
        cases stands with
        | exactly equal => rw [equal, mul_div_cancel_right₀ _ scale.ne']
      · rintro rfl
        cases stands with
        | more low => rwa [lt_div_iff₀ scale]

end StandsFor

/-- A fraction rounded as numbers are: to a whole number of steps of a power of two. The steps are
as fine as 53 bits and the least exponent allow. -/
structure Rounds (v : ℚ) (mantissa : Nat) (exponent : Int) : Prop where
  least : -1074 ≤ exponent
  reaches : exponent = -1074 ∨ 2 ^ 52 * 2 ^ exponent ≤ v
  within : v < 2 ^ 53 * 2 ^ exponent
  nearest : NearestWhole (v / 2 ^ exponent) mantissa

/-- The finest steps are found from the number of digits. -/
theorem StandsFor.rounds {v : ℚ} {mantissa : Nat} {exponent : Int} {more : Bool}
    (stands : StandsFor v mantissa exponent more) (filled : mantissa ≠ 0) {target : Int}
    (finest : target = max (mantissa.log2 + 1 + exponent - 53) (-1074)) {rounded : Nat}
    (nearest : NearestWhole (v / 2 ^ target) rounded) : Rounds v rounded target := by
  refine ⟨by omega, ?_, ?_, nearest⟩
  · by_cases lowest : target = -1074
    · exact .inl lowest
    · right
      have leading : (2 : ℚ) ^ mantissa.log2 ≤ mantissa := by exact_mod_cast Nat.log2_self_le filled
      calc (2 : ℚ) ^ 52 * 2 ^ target = 2 ^ (mantissa.log2 + exponent) := by
            rw [← zpow_natCast, ← zpow_add₀ two_ne_zero]
            congr 1
            omega
        _ = 2 ^ mantissa.log2 * 2 ^ exponent := by rw [zpow_add₀ two_ne_zero, zpow_natCast]
        _ ≤ mantissa * 2 ^ exponent := by gcongr
        _ ≤ v := stands.low
  · calc v < 2 ^ (((mantissa.log2 + 1 : Nat) : Int) + exponent) :=
          stands.lt_of_lt Nat.lt_log2_self
      _ ≤ 2 ^ (53 + target) := zpow_le_zpow_right₀ one_le_two (by omega)
      _ = 2 ^ 53 * 2 ^ target := by rw [zpow_add₀ two_ne_zero]; rfl

/-- The bits of a magnitude are those of the fraction it stands for, rounded. -/
theorem magnitudeBits_rounds {v : ℚ} {mantissa : Nat} {exponent : Int} {more : Bool}
    (stands : StandsFor v mantissa exponent more) :
    ∃ rounded target, Rounds v rounded target ∧
      magnitudeBits mantissa exponent more = magnitudeOf rounded target := by
  unfold magnitudeBits
  split
  · rename_i empty
    refine ⟨0, -1074, ?_, rfl⟩
    have zero : v = 0 := by
      cases stands with
      | exactly equal => rw [equal, empty, Nat.cast_zero, zero_mul]
      | more _ _ wide => omega
    rw [zero]
    exact ⟨le_rfl, .inl rfl, by positivity, by rw [zero_div]; exact_mod_cast NearestWhole.self 0⟩
  · rename_i filled
    have digits : Int.ofNat (mantissa.log2 + 1) = mantissa.log2 + 1 := rfl
    dsimp only
    rw [digits]
    generalize finest : max ((mantissa.log2 : Int) + 1 + exponent - 53) (-1074) = target
    exact ⟨_, target, stands.rounds filled finest.symm (stands.nearest (by omega)), rfl⟩

namespace Rounds

variable {v : ℚ} {mantissa : Nat} {exponent : Int}

theorem aligned (rounds : Rounds v mantissa exponent) : Aligned mantissa exponent := by
  have positive : (0 : ℚ) < 2 ^ exponent := zpow_pos two_pos _
  have near := abs_le.mp rounds.nearest.near
  refine ⟨?_, rounds.least, ?_⟩
  · have below : v / 2 ^ exponent < 2 ^ 53 := (div_lt_iff₀ positive).mpr rounds.within
    have strict : (mantissa : ℚ) < 2 ^ 53 + 1 := by linarith
    exact Nat.lt_succ_iff.mp (by exact_mod_cast strict)
  · refine rounds.reaches.imp_right fun reaches => ?_
    have above : 2 ^ 52 ≤ v / 2 ^ exponent := (le_div_iff₀ positive).mpr reaches
    have strict : (2 : ℚ) ^ 52 < mantissa + 1 := by linarith
    exact Nat.lt_succ_iff.mp (by exact_mod_cast strict)

/-- The middle between the greatest number and the next power of two. -/
theorem limit_eq : (2 : ℚ) ^ 1024 - 2 ^ 970 = (2 ^ 54 - 1) * 2 ^ (970 : Int) := by
  rw [sub_one_mul, ← zpow_natCast 2 54, ← zpow_add₀ two_ne_zero]
  rfl

/-- At the greatest exponent everything below the middle to the next power of two is rounded down.
The middle itself is rounded up, since the greatest mantissa is odd. -/
private theorem lt_iff_of_greatest (rounds : Rounds v mantissa 971) :
    mantissa < 2 ^ 53 ↔ v < 2 ^ 1024 - 2 ^ 970 := by
  have limit : (2 : ℚ) ^ 1024 - 2 ^ 970 = (2 ^ 53 - 1 / 2) * 2 ^ (971 : Int) := by
    rw [limit_eq, show (971 : Int) = 970 + 1 from rfl, zpow_add_one₀ two_ne_zero]
    ring
  have near := abs_le.mp rounds.nearest.near
  rw [limit, ← div_lt_iff₀ (zpow_pos two_pos _)]
  constructor
  · intro below
    have whole : (mantissa : ℚ) + 1 ≤ 2 ^ 53 := by exact_mod_cast below
    refine lt_of_le_of_ne (by linarith) fun middle => ?_
    have full : mantissa = 2 ^ 53 - 1 := by
      have least : (2 : ℚ) ^ 53 ≤ mantissa + 1 := by linarith
      have : 2 ^ 53 ≤ mantissa + 1 := by exact_mod_cast least
      omega
    have even := rounds.nearest.even (by rw [middle, full]; norm_num)
    omega
  · intro below
    have strict : (mantissa : ℚ) < 2 ^ 53 := by linarith
    exact_mod_cast strict

/-- What is rounded is finite exactly below the middle between the greatest number and the next
power of two. -/
theorem finite_iff (rounds : Rounds v mantissa exponent) :
    magnitudeOf mantissa exponent < 0x7FF * 2 ^ 52 ↔ v < 2 ^ 1024 - 2 ^ 970 := by
  obtain ⟨le, least, full⟩ := rounds.aligned
  have bits : magnitudeOf mantissa exponent < 0x7FF * 2 ^ 52 ↔
      (exponent + 1074).toNat * 2 ^ 52 + mantissa < 0x7FF * 2 ^ 52 := by
    unfold magnitudeOf
    omega
  rw [bits]
  rcases Int.lt_trichotomy exponent 971 with small | greatest | large
  · refine iff_of_true (by omega) ?_
    calc v < 2 ^ 53 * 2 ^ exponent := rounds.within
      _ ≤ 2 ^ 53 * 2 ^ (970 : Int) := by
        gcongr
        · exact one_le_two
        · omega
      _ < (2 ^ 54 - 1) * 2 ^ (970 : Int) := by gcongr; norm_num
      _ = 2 ^ 1024 - 2 ^ 970 := limit_eq.symm
  · subst greatest
    rw [← rounds.lt_iff_of_greatest]
    omega
  · refine iff_of_false (by omega) (not_lt.mpr ?_)
    have reaches : 2 ^ 52 * 2 ^ exponent ≤ v := rounds.reaches.resolve_left (by omega)
    calc (2 : ℚ) ^ 1024 - 2 ^ 970 = (2 ^ 54 - 1) * 2 ^ (970 : Int) := limit_eq
      _ ≤ 2 ^ 54 * 2 ^ (970 : Int) := by gcongr; norm_num
      _ = 2 ^ 52 * 2 ^ (972 : Int) := by
        rw [show (972 : Int) = 970 + 2 from rfl, zpow_add₀ two_ne_zero]
        ring
      _ ≤ 2 ^ 52 * 2 ^ exponent := by
        gcongr
        · exact one_le_two
        · omega
      _ ≤ v := reaches

/-! ## The nearest number -/

private theorem dist_eq (v : ℚ) (exponent k : Int) :
    |v - k * 2 ^ exponent| = |v / 2 ^ exponent - k| * 2 ^ exponent := by
  have positive : (0 : ℚ) < 2 ^ exponent := zpow_pos two_pos _
  rw [← abs_of_pos positive, ← abs_mul, abs_of_pos positive, sub_mul, div_mul_cancel₀ _ positive.ne']

/-- No multiple of the step is nearer. -/
private theorem dist_le_multiple (rounds : Rounds v mantissa exponent) (k : Int) :
    |v - mantissa * 2 ^ exponent| ≤ |v - k * 2 ^ exponent| := by
  have positive : (0 : ℚ) < 2 ^ exponent := zpow_pos two_pos _
  have rounded := dist_eq v exponent mantissa
  rw [Int.cast_natCast] at rounded
  rw [rounded, dist_eq]
  exact mul_le_mul_of_nonneg_right (rounds.nearest.dist_le k) positive.le

private theorem even_of_tie_multiple (rounds : Rounds v mantissa exponent) {k : Int}
    (other : k * (2 : ℚ) ^ exponent ≠ mantissa * 2 ^ exponent)
    (tie : |v - k * 2 ^ exponent| = |v - mantissa * 2 ^ exponent|) : mantissa % 2 = 0 := by
  have positive : (0 : ℚ) < 2 ^ exponent := zpow_pos two_pos _
  have rounded := dist_eq v exponent mantissa
  rw [Int.cast_natCast] at rounded
  rw [rounded, dist_eq] at tie
  refine rounds.nearest.even_of_tie (k := k) ?_ (mul_right_cancel₀ positive.ne' tie)
  rintro rfl
  exact other (by rw [Int.cast_natCast])

/-- What has 53 bits of finer steps is below the steps of the fraction, and farther away. -/
private theorem dist_lt_finer (rounds : Rounds v mantissa exponent) {k fine : Int}
    (small : |k| < 2 ^ 53) (least : -1074 ≤ fine) (finer : fine < exponent) :
    |v - mantissa * 2 ^ exponent| < |v - k * 2 ^ fine| := by
  have reaches : 2 ^ 52 * 2 ^ exponent ≤ v := rounds.reaches.resolve_left (by omega)
  have below : (k : ℚ) * 2 ^ fine < 2 ^ 52 * 2 ^ exponent := by
    have whole : k < 2 ^ 53 := lt_of_le_of_lt (le_abs_self k) small
    have digits : (k : ℚ) < 2 ^ 53 := by exact_mod_cast whole
    calc (k : ℚ) * 2 ^ fine < 2 ^ 53 * 2 ^ fine := by gcongr
      _ = 2 ^ 52 * 2 ^ (fine + 1) := by rw [zpow_add_one₀ two_ne_zero]; ring
      _ ≤ 2 ^ 52 * 2 ^ exponent := by
        gcongr
        · exact one_le_two
        · omega
  have step : |v - mantissa * 2 ^ exponent| ≤ |v - 2 ^ 52 * 2 ^ exponent| := by
    have multiple := rounds.dist_le_multiple ((2 ^ 52 : Nat) : Int)
    rwa [Int.cast_natCast, Nat.cast_pow, Nat.cast_ofNat] at multiple
  calc |v - mantissa * 2 ^ exponent| ≤ |v - 2 ^ 52 * 2 ^ exponent| := step
    _ = v - 2 ^ 52 * 2 ^ exponent := abs_of_nonneg (by linarith)
    _ < v - k * 2 ^ fine := by linarith
    _ ≤ |v - k * 2 ^ fine| := le_abs_self _

/-- No fraction of 53 bits is nearer, and one that is as near leaves the mantissa even. -/
theorem nearest_of_digits (rounds : Rounds v mantissa exponent) {k other : Int}
    (small : |k| < 2 ^ 53) (least : -1074 ≤ other) :
    |v - mantissa * 2 ^ exponent| ≤ |v - k * 2 ^ other| ∧
      (k * (2 : ℚ) ^ other ≠ mantissa * 2 ^ exponent →
        |v - k * 2 ^ other| = |v - mantissa * 2 ^ exponent| → mantissa % 2 = 0) := by
  by_cases finer : other < exponent
  · have farther := rounds.dist_lt_finer small least finer
    exact ⟨farther.le, fun _ tie => absurd tie farther.ne'⟩
  · have multiple : (k : ℚ) * 2 ^ other =
        (k * twoTo (other - exponent).toNat : Int) * 2 ^ exponent := by
      push_cast
      rw [mul_assoc, twoTo_mul_zpow (by omega)]
    rw [multiple]
    exact ⟨rounds.dist_le_multiple _, rounds.even_of_tie_multiple⟩

end Rounds

/-- The number that is nearest to a fraction, of two the one with the even mantissa. -/
structure Nearest (v : ℚ) (x : Float) : Prop where
  finite : x.isFinite = true
  least : ∀ y : Float, y.isFinite = true → |v - value x| ≤ |v - value y|
  even : ∀ y : Float, y.isFinite = true → value y ≠ value x → |v - value y| = |v - value x| →
    ∃ negative mantissa exponent, parts x = .finite negative mantissa exponent ∧ mantissa % 2 = 0

/-- The value of a finite number has 53 bits. -/
private theorem value_digits {x : Float} (finite : x.isFinite = true) :
    ∃ k exponent : Int, value x = k * 2 ^ exponent ∧ |k| < 2 ^ 53 ∧ -1074 ≤ exponent := by
  obtain ⟨negative, mantissa, exponent, written⟩ := isFinite_iff.mp finite
  obtain ⟨⟨below, least, -⟩, -⟩ := canonical_of_parts written
  refine ⟨(if negative then -1 else 1) * mantissa, exponent, ?_, ?_, least⟩
  · simp only [value, written]
    push_cast
    rw [mul_assoc]
  · rw [abs_mul, Nat.abs_cast]
    split <;> simp <;> exact_mod_cast below

/-- A fraction of a sign is rounded to the number nearest to it. -/
theorem Rounds.nearest_signed {v : ℚ} {mantissa : Nat} {exponent : Int}
    (rounds : Rounds v mantissa exponent) (finite : v < 2 ^ 1024 - 2 ^ 970) (negative : Bool) :
    Nearest ((if negative then -1 else 1) * v) (signed negative (magnitudeOf mantissa exponent)) := by
  have bits := rounds.finite_iff.mpr finite
  have number := value_signed negative rounds.aligned bits
  have turned : ∀ z : ℚ, |(if negative then -1 else 1) * v - z| =
      |v - (if negative then -1 else 1) * z| := by
    intro z
    cases negative with
    | false => simp
    | true =>
      rw [abs_sub_comm]
      simp [add_comm, sub_eq_add_neg]
  have involutive : (if negative then -1 else 1 : ℚ) *
      ((if negative then -1 else 1) * (mantissa * 2 ^ exponent)) = mantissa * 2 ^ exponent := by
    cases negative <;> simp
  have others : ∀ y : Float, y.isFinite = true → ∃ k other : Int,
      (if negative then -1 else 1) * value y = k * 2 ^ other ∧ |k| < 2 ^ 53 ∧ -1074 ≤ other := by
    intro y finite
    obtain ⟨k, other, same, small, least⟩ := value_digits finite
    refine ⟨(if negative then -1 else 1) * k, other, ?_, ?_, least⟩
    · rw [same]
      push_cast
      rw [mul_assoc]
    · cases negative <;> simpa using small
  refine ⟨(isFinite_signed negative rounds.aligned).mpr bits, ?_, ?_⟩
  · intro y finite
    obtain ⟨k, other, same, small, least⟩ := others y finite
    rw [turned, turned, number, involutive, same]
    exact (rounds.nearest_of_digits small least).1
  · intro y finite differs tie
    obtain ⟨k, other, same, small, least⟩ := others y finite
    rw [turned, turned, number, involutive, same] at tie
    have apart : (k : ℚ) * 2 ^ other ≠ mantissa * 2 ^ exponent := by
      intro equal
      rw [← same, ← involutive] at equal
      refine differs ?_
      rw [number]
      exact mul_left_cancel₀ (by cases negative <;> simp) equal
    have even := (rounds.nearest_of_digits small least).2 apart tie
    obtain ⟨-, m, e, written, -, parity⟩ | ⟨full, -⟩ := parts_signed negative rounds.aligned
    · exact ⟨_, m, e, written, parity.trans even⟩
    · omega

/-! ## Products and quotients -/

theorem scaled_rounds (negative : Bool) (mantissa : Nat) (exponent : Int) :
    ∃ rounded target, Rounds (mantissa * 2 ^ exponent) rounded target ∧
      scaled negative mantissa exponent = signed negative (magnitudeOf rounded target) := by
  have stands : StandsFor (mantissa * 2 ^ exponent) mantissa exponent false := .exactly rfl
  obtain ⟨rounded, target, rounds, bits⟩ := magnitudeBits_rounds stands
  exact ⟨rounded, target, rounds, by rw [scaled, bits]⟩

/-- A quotient is divided out to more than 53 bits. -/
private theorem quotient_wide {num den : Nat} (filled : num ≠ 0) (positive : den ≠ 0) :
    2 ^ 53 ≤ num * twoTo (66 + den.log2 - num.log2) / den := by
  rw [Nat.le_div_iff_mul_le (Nat.pos_of_ne_zero positive)]
  calc 2 ^ 53 * den ≤ 2 ^ 53 * 2 ^ (den.log2 + 1) := Nat.mul_le_mul_left _ Nat.lt_log2_self.le
    _ = 2 ^ (53 + (den.log2 + 1)) := (Nat.pow_add ..).symm
    _ ≤ 2 ^ (num.log2 + (66 + den.log2 - num.log2)) := Nat.pow_le_pow_right two_pos (by omega)
    _ = 2 ^ num.log2 * 2 ^ (66 + den.log2 - num.log2) := Nat.pow_add ..
    _ ≤ num * 2 ^ (66 + den.log2 - num.log2) := Nat.mul_le_mul_right _ (Nat.log2_self_le filled)

theorem ratio_rounds (negative : Bool) {num den : Nat} (filled : num ≠ 0) (positive : den ≠ 0) :
    ∃ rounded target, Rounds (num / den) rounded target ∧
      ratio negative num den = signed negative (magnitudeOf rounded target) := by
  have wide := quotient_wide filled positive
  unfold ratio
  dsimp only
  generalize 66 + den.log2 - num.log2 = shift at wide ⊢
  have divisor : (0 : ℚ) < den := by exact_mod_cast Nat.pos_of_ne_zero positive
  have unit : (2 : ℚ) ^ (-Int.ofNat shift) = 1 / 2 ^ shift := by
    rw [Int.ofNat_eq_natCast, zpow_neg, zpow_natCast, one_div]
  have whole : (num : ℚ) * 2 ^ shift =
      den * (num * twoTo shift / den : Nat) + (num * twoTo shift % den : Nat) := by
    rw [← cast_twoTo]
    exact_mod_cast (Nat.div_add_mod (num * twoTo shift) den).symm
  have below : ((num * twoTo shift % den : Nat) : ℚ) < den := by
    exact_mod_cast Nat.mod_lt _ (Nat.pos_of_ne_zero positive)
  generalize num * twoTo shift / den = quotient at *
  generalize num * twoTo shift % den = rest at *
  have stands : StandsFor (num / den) quotient (-Int.ofNat shift) (rest != 0) := by
    by_cases divides : rest = 0
    · subst divides
      refine .exactly ?_
      rw [Nat.cast_zero, add_zero] at whole
      rw [unit]
      field_simp
      linarith
    · rw [bne_iff_ne.mpr divides]
      have left : (0 : ℚ) < rest := by exact_mod_cast Nat.pos_of_ne_zero divides
      refine .more ?_ ?_ wide
      · rw [unit, mul_one_div, div_lt_div_iff₀ (by positivity) divisor]
        linarith
      · rw [unit, mul_one_div, div_lt_div_iff₀ divisor (by positivity)]
        linarith
  obtain ⟨rounded, target, rounds, bits⟩ := magnitudeBits_rounds stands
  exact ⟨rounded, target, rounds, by rw [bits]⟩

end TurtleScript.Binary64
