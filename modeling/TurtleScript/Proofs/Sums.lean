import TurtleScript.Proofs.Rounding

/-!
Sums and differences of double-precision numbers. Both are the exact ones, rounded once: the
arithmetic shifts the exact mantissa digit by digit into place, and two bits remember enough of what
was shifted out. So a sum is finite unless the exact one is too large, and is negative only if the
exact one is.
-/
namespace TurtleScript.Binary64

open Float.Model Float.Model.UnpackedFloat

/-! ## Shifted mantissas -/

/-- What the round bit and the sticky bit tell about the part of a fraction that was shifted out. -/
inductive Residue : Bool → Bool → ℚ → Prop
  | none : Residue false false 0
  | below {w : ℚ} (positive : 0 < w) (small : w < 1 / 2) : Residue false true w
  | half : Residue true false (1 / 2)
  | above {w : ℚ} (large : 1 / 2 < w) (small : w < 1) : Residue true true w

/-- A mantissa with residual bits holds a fraction. -/
def Holds (m : ExtendedMantissa) (w : ℚ) : Prop :=
  Residue m.roundBit m.stickyBit (w - m.mantissa)

private theorem Residue.of_eq {roundBit stickyBit : Bool} {w v : ℚ}
    (residue : Residue roundBit stickyBit w) (equal : w = v) : Residue roundBit stickyBit v :=
  equal ▸ residue

/-- Shifting by one digit halves the fraction. -/
private theorem shiftRightOne_holds {m : ExtendedMantissa} {w : ℚ} (holds : Holds m w) :
    Holds m.shiftRightOne (w / 2) := by
  obtain ⟨n, roundBit, stickyBit⟩ := m
  unfold Holds at holds
  dsimp only at holds
  generalize out : w - n = r at holds
  have halves : w / 2 - (n / 2 : Nat) = (n % 2 : Nat) / 2 + r / 2 := by
    have whole : (n : ℚ) = 2 * (n / 2 : Nat) + (n % 2 : Nat) := by
      exact_mod_cast (Nat.div_add_mod n 2).symm
    linarith
  change Residue (n % 2 != 0) (roundBit || stickyBit) (w / 2 - (n / 2 : Nat))
  rw [halves]
  rcases Nat.mod_two_eq_zero_or_one n with even | odd
  · rw [even, Nat.cast_zero, zero_div, zero_add]
    cases holds with
    | none => exact Residue.none.of_eq (by norm_num)
    | below positive small => exact .below (by linarith) (by linarith)
    | half => exact .below (by norm_num) (by norm_num)
    | above large small => exact .below (by linarith) (by linarith)
  · rw [odd, Nat.cast_one]
    cases holds with
    | none => exact Residue.half.of_eq (by norm_num)
    | below positive small => exact .above (by linarith) (by linarith)
    | half => exact .above (by norm_num) (by norm_num)
    | above large small => exact .above (by linarith) (by linarith)

private theorem shift_holds {m : ExtendedMantissa} {w : ℚ} (holds : Holds m w) (count : Nat) :
    Holds (m >>> count) (w / 2 ^ count) := by
  induction count with
  | zero =>
    rw [pow_zero, div_one]
    exact holds
  | succ count ih =>
    rw [pow_succ, ← div_div]
    exact shiftRightOne_holds ih

private theorem roundedMantissa_nearest {m : ExtendedMantissa} {w : ℚ} (holds : Holds m w) :
    NearestWhole w m.roundedMantissa := by
  obtain ⟨n, roundBit, stickyBit⟩ := m
  unfold Holds at holds
  dsimp only at holds
  obtain ⟨r, rfl⟩ : ∃ r, w = n + r := ⟨w - n, by ring⟩
  rw [add_sub_cancel_left] at holds
  cases holds with
  | none =>
    change NearestWhole _ n
    rw [add_zero]
    exact .self n
  | below positive small =>
    change NearestWhole _ n
    have distance : |(n : ℚ) + r - n| = r := by rw [add_sub_cancel_left, abs_of_pos positive]
    exact ⟨by linarith, fun tie => by linarith⟩
  | half =>
    change NearestWhole _ (n + n % 2)
    refine ⟨?_, fun _ => by omega⟩
    rcases Nat.mod_two_eq_zero_or_one n with even | odd
    · rw [even]
      norm_num
    · rw [odd]
      push_cast
      rw [abs_le]
      constructor <;> linarith
  | above large small =>
    change NearestWhole _ (n + 1)
    have distance : |(n : ℚ) + r - (n + 1 : Nat)| = 1 - r := by
      push_cast
      rw [abs_of_neg (by linarith)]
      ring
    exact ⟨by linarith, fun tie => by linarith⟩

/-! ## Rounding into the range of the numbers -/

private theorem targetExponent_eq (total : Int) :
    Format.binary64.targetExponent total = max (total - 53) (-1074) := by
  simp only [Format.targetExponent]
  rfl

/-- What has no more than 53 digits stays. -/
private theorem shift_settled {n : Nat} {exponent : Int} (below : n < 2 ^ 53)
    (least : -1074 ≤ exponent) :
    shiftToTargetExponent .binary64 n exponent .exact = (⟨n, false, false⟩, exponent) := by
  have digits : n.log2 ≤ 52 := by
    by_cases empty : n = 0
    · simp [empty]
    · exact Nat.lt_succ_iff.mp ((Nat.log2_lt empty).mpr below)
  unfold shiftToTargetExponent shiftToExponent
  rw [targetExponent_eq]
  have amount : (max (totalExponent n exponent - 53) (-1074) - exponent).toNat = 0 := by
    unfold totalExponent
    omega
  dsimp only
  rw [amount, Int.natCast_zero, Int.add_zero]
  rfl

/-- What was rounded up to the next power of two is shifted once more. -/
private theorem shift_carried {exponent : Int} (least : -1074 ≤ exponent) :
    shiftToTargetExponent .binary64 (2 ^ 53) exponent .exact =
      (⟨2 ^ 52, false, false⟩, exponent + 1) := by
  unfold shiftToTargetExponent shiftToExponent
  rw [targetExponent_eq]
  have amount : (max (totalExponent (2 ^ 53) exponent - 53) (-1074) - exponent).toNat = 1 := by
    unfold totalExponent
    rw [Nat.log2_two_pow]
    omega
  dsimp only
  rw [amount]
  rfl

private theorem pack_zero (sign : Sign) :
    Float.ofModel (Float.Model.pack (.zero sign)) = signed (isMinus sign) 0 := by
  cases sign <;> decide +kernel

/-- What rounding gives is the number of the rounded magnitude. -/
private theorem pack_roundWithAccuracy (sign : Sign) {n rounded : Nat} {exponent target : Int}
    {m : ExtendedMantissa} (shifted : shiftToTargetExponent .binary64 n exponent .exact = (m, target))
    (mantissa : m.roundedMantissa = rounded) (aligned : Aligned rounded target) :
    Float.ofModel (Float.Model.pack (roundWithAccuracy .binary64 sign n exponent .exact)) =
      signed (isMinus sign) (magnitudeOf rounded target) := by
  obtain ⟨le, least, full⟩ := aligned
  unfold roundWithAccuracy
  rw [shifted]
  dsimp only
  rw [mantissa]
  by_cases carried : rounded = 2 ^ 53
  · subst carried
    rw [shift_carried least]
    dsimp only
    have bits : magnitudeOf (2 ^ 52) (target + 1) = magnitudeOf (2 ^ 53) target := by
      unfold magnitudeOf
      omega
    rw [dif_neg (Nat.two_pow_pos 52).ne',
      ofModel_pack_finite ⟨by omega, by omega, .inr le_rfl⟩, bits]
  · rw [shift_settled (by omega) least]
    dsimp only
    by_cases empty : rounded = 0
    · have lowest : target = -1074 := by omega
      rw [dif_pos empty, pack_zero, empty, lowest]
      rfl
    · rw [dif_neg empty, ofModel_pack_finite ⟨by omega, least, full⟩]

private theorem log2_shiftLeft {n : Nat} (filled : n ≠ 0) (count : Nat) :
    (n <<< count).log2 = n.log2 + count := by
  rw [Nat.shiftLeft_eq]
  refine (Nat.log2_eq_iff (Nat.mul_ne_zero filled (Nat.two_pow_pos count).ne')).mpr ⟨?_, ?_⟩
  · rw [Nat.pow_add]
    exact Nat.mul_le_mul_right _ (Nat.log2_self_le filled)
  · rw [Nat.add_right_comm, Nat.pow_add]
    exact Nat.mul_lt_mul_of_pos_right Nat.lt_log2_self (Nat.two_pow_pos count)

/-- Whatever is packed after rounding is the number of the rounded magnitude. -/
private theorem round_rounds (sign : Sign) {n : Nat} (filled : n ≠ 0) (exponent : Int) :
    ∃ rounded target, Rounds (n * 2 ^ exponent) rounded target ∧
      Float.ofModel (Float.Model.pack (UnpackedFloat.round .binary64 sign n exponent)) =
        signed (isMinus sign) (magnitudeOf rounded target) := by
  unfold UnpackedFloat.round decreaseExponent
  rw [targetExponent_eq]
  dsimp only
  generalize finest : max (totalExponent n exponent - 53) (-1074) = target
  generalize lowered : (exponent - target).toNat = count
  have digits := log2_shiftLeft filled count
  have same : (n : ℚ) * 2 ^ exponent = (n <<< count : Nat) * 2 ^ (exponent - count) := by
    rw [Nat.shiftLeft_eq, zpow_sub₀ two_ne_zero, zpow_natCast]
    push_cast
    field_simp
  have wide : n <<< count ≠ 0 := by
    rw [Nat.shiftLeft_eq]
    exact Nat.mul_ne_zero filled (Nat.two_pow_pos count).ne'
  unfold totalExponent at finest
  rw [same]
  generalize n <<< count = wider at *
  generalize moved : exponent - (count : Int) = low at *
  generalize shift : (target - low).toNat = amount
  have shifted : shiftToTargetExponent .binary64 wider low .exact =
      (ExtendedMantissa.ofMantissaAndAccuracy wider .exact >>> amount, target) := by
    have again : max (totalExponent wider low - 53) (-1074) = target := by
      unfold totalExponent
      omega
    unfold shiftToTargetExponent shiftToExponent
    rw [targetExponent_eq, again]
    dsimp only
    rw [shift]
    congr 1
    omega
  have holds : Holds (ExtendedMantissa.ofMantissaAndAccuracy wider .exact) wider := by
    unfold Holds
    change Residue false false ((wider : ℚ) - wider)
    rw [sub_self]
    exact .none
  have nearest := roundedMantissa_nearest (shift_holds holds amount)
  have steps : (wider : ℚ) / 2 ^ amount = wider * 2 ^ low / 2 ^ target := by
    have places : target = low + amount := by omega
    rw [places, zpow_add₀ two_ne_zero, zpow_natCast]
    field_simp
  rw [steps] at nearest
  have stands : StandsFor (wider * 2 ^ low) wider low false := .exactly rfl
  have rounds := stands.rounds wide (by omega) nearest
  exact ⟨_, target, rounds, pack_roundWithAccuracy sign shifted rfl rounds.aligned⟩

/-- An exact mantissa is rounded by its magnitude. -/
private theorem normalize_rounds {mantissa : Int} (nonzero : mantissa ≠ 0) (exponent : Int)
    (sign : Sign) :
    ∃ rounded target, Rounds |mantissa * 2 ^ exponent| rounded target ∧
      Float.ofModel (Float.Model.pack (UnpackedFloat.normalize .binary64 mantissa exponent sign)) =
        signed (mantissa < 0) (magnitudeOf rounded target) := by
  have magnitude : |(mantissa : ℚ) * 2 ^ exponent| = mantissa.natAbs * 2 ^ exponent := by
    rw [abs_mul, abs_of_pos (zpow_pos (two_pos : (0 : ℚ) < 2) exponent), Nat.cast_natAbs,
      Int.cast_abs]
  rw [magnitude]
  have filled : mantissa.natAbs ≠ 0 := by omega
  unfold UnpackedFloat.normalize
  split
  · rename_i order
    have negative := Int.compare_eq_lt.mp order
    rw [show (-mantissa).toNat = mantissa.natAbs by omega, decide_eq_true negative]
    exact round_rounds .negative filled exponent
  · rename_i order
    exact absurd (Int.compare_eq_eq.mp order) nonzero
  · rename_i order
    have positive := Int.compare_eq_gt.mp order
    rw [show mantissa.toNat = mantissa.natAbs by omega, decide_eq_false (by omega)]
    exact round_rounds .positive filled exponent

/-! ## Sums -/

/-- The fraction that an unpacked number is. -/
def amount : UnpackedFloat → ℚ
  | .finite sign mantissa exponent _ => sign.apply mantissa * 2 ^ exponent
  | .zero _ | .infinity _ | .notANumber => 0

private theorem apply_cast (sign : Sign) (n : Nat) :
    (sign.apply n : ℚ) = (if isMinus sign then -1 else 1) * n := by
  cases sign <;> simp [Sign.apply, isMinus]

theorem value_eq (x : Float) : value x = amount x.toModel.unpack := by
  unfold value
  rw [parts_eq]
  cases x.toModel.unpack with
  | notANumber | infinity => rfl
  | zero sign =>
    change (if isMinus sign then -1 else 1 : ℚ) * ((0 : Nat) * 2 ^ (-1074 : Int)) = 0
    rw [Nat.cast_zero, zero_mul, mul_zero]
  | finite sign mantissa exponent positive =>
    change (if isMinus sign then -1 else 1 : ℚ) * (mantissa * 2 ^ exponent) =
      sign.apply mantissa * 2 ^ exponent
    rw [apply_cast, mul_assoc]

/-- A finite number as it is unpacked. -/
inductive Settled : UnpackedFloat → Prop
  | zero (sign : Sign) : Settled (.zero sign)
  | finite {mantissa : Nat} {exponent : Int} (canonical : Canonical mantissa exponent) (sign : Sign)
    (positive : 0 < mantissa) : Settled (.finite sign mantissa exponent positive)

private theorem settled_unpack {x : Float} (finite : x.isFinite = true) :
    Settled x.toModel.unpack := by
  obtain ⟨negative, mantissa, exponent, written⟩ := isFinite_iff.mp finite
  have canonical := (canonical_of_parts written).1
  rw [parts_eq] at written
  cases unpacked : x.toModel.unpack with
  | notANumber | infinity =>
    rw [unpacked] at written
    cases written
  | zero sign => exact .zero sign
  | finite sign m e positive =>
    rw [unpacked] at written
    cases written
    exact .finite canonical sign positive

private theorem Settled.neg {u : UnpackedFloat} (settled : Settled u) : Settled u.neg := by
  cases settled with
  | zero sign => exact .zero (-sign)
  | finite canonical sign positive => exact .finite canonical (-sign) positive

private theorem amount_neg (u : UnpackedFloat) : amount u.neg = -amount u := by
  cases u with
  | notANumber | infinity | zero => exact neg_zero.symm
  | finite sign mantissa exponent positive =>
    cases sign with
    | negative =>
      change (mantissa : ℚ) * _ = -(((-mantissa : Int) : ℚ) * _)
      push_cast
      ring
    | positive =>
      change ((-mantissa : Int) : ℚ) * _ = -((mantissa : ℚ) * _)
      push_cast
      ring

/-- A number as it is written is rounded to itself. -/
private theorem pack_rounds {mantissa : Nat} {exponent : Int}
    (canonical : Canonical mantissa exponent) (sign : Sign) (positive : 0 < mantissa) :
    ∃ rounded target,
      Rounds |amount (.finite sign mantissa exponent positive)| rounded target ∧
        Float.ofModel (Float.Model.pack (.finite sign mantissa exponent positive)) =
          signed (amount (.finite sign mantissa exponent positive) < 0)
            (magnitudeOf rounded target) := by
  have step : (0 : ℚ) < 2 ^ exponent := zpow_pos two_pos _
  have filled : (0 : ℚ) < mantissa := by exact_mod_cast positive
  have total : (0 : ℚ) < mantissa * 2 ^ exponent := mul_pos filled step
  have rounds : Rounds (mantissa * 2 ^ exponent) mantissa exponent := by
    refine ⟨canonical.least, ?_, ?_, ?_⟩
    · refine canonical.full.imp_right fun full => mul_le_mul_of_nonneg_right ?_ step.le
      exact_mod_cast full
    · refine mul_lt_mul_of_pos_right ?_ step
      exact_mod_cast canonical.below
    · rw [mul_div_cancel_right₀ _ step.ne']
      exact .self mantissa
  refine ⟨mantissa, exponent, ?_⟩
  rw [ofModel_pack_finite canonical]
  cases sign with
  | negative =>
    have minus : amount (.finite .negative mantissa exponent positive) =
        -(mantissa * 2 ^ exponent) := by
      change ((-mantissa : Int) : ℚ) * _ = _
      push_cast
      ring
    rw [minus, abs_neg, abs_of_pos total, decide_eq_true (by linarith)]
    exact ⟨rounds, rfl⟩
  | positive =>
    have plus : amount (.finite .positive mantissa exponent positive) = mantissa * 2 ^ exponent :=
      rfl
    rw [plus, abs_of_pos total, decide_eq_false (not_lt.mpr total.le)]
    exact ⟨rounds, rfl⟩

private theorem apply_shiftLeft (sign : Sign) (mantissa : Nat) {exponent least : Int}
    (order : least ≤ exponent) :
    (sign.apply (mantissa <<< (exponent - least).toNat : Nat) : ℚ) * 2 ^ least =
      sign.apply mantissa * 2 ^ exponent := by
  rw [apply_cast, apply_cast, Nat.shiftLeft_eq, ← twoTo_mul_zpow order, cast_twoTo]
  push_cast
  ring

/-- The exact sum of two numbers has the lesser of their exponents. -/
private theorem amount_add (sign other : Sign) (m n : Nat) (e f : Int) (positive : 0 < m)
    (filled : 0 < n) :
    amount (.finite sign m e positive) + amount (.finite other n f filled) =
      (sign.apply (m <<< (e - min e f).toNat : Nat) +
        other.apply (n <<< (f - min e f).toNat : Nat) : Int) * 2 ^ min e f := by
  rw [Int.cast_add, add_mul, apply_shiftLeft _ _ (min_le_left e f), apply_shiftLeft _ _ (min_le_right e f)]
  rfl

/-- What is added is the exact sum, rounded. -/
private theorem pack_add_rounds {a b : UnpackedFloat} (first : Settled a) (second : Settled b)
    (nonzero : amount a + amount b ≠ 0) :
    ∃ rounded target, Rounds |amount a + amount b| rounded target ∧
      Float.ofModel (Float.Model.pack (UnpackedFloat.add .binary64 a b)) =
        signed (amount a + amount b < 0) (magnitudeOf rounded target) := by
  cases first with
  | zero sign =>
    have none : amount (.zero sign) = 0 := rfl
    rw [none, zero_add] at nonzero ⊢
    cases second with
    | zero => exact absurd rfl nonzero
    | finite canonical other filled => exact pack_rounds canonical other filled
  | @finite m e canonical sign positive =>
    cases second with
    | zero other =>
      have none : amount (.zero other) = 0 := rfl
      rw [none, add_zero]
      exact pack_rounds canonical sign positive
    | @finite n f _ other filled =>
      rw [amount_add] at nonzero ⊢
      change ∃ rounded target, _ ∧ Float.ofModel (Float.Model.pack (UnpackedFloat.normalize _
        (sign.apply (m <<< (e - min e f).toNat : Nat) +
          other.apply (n <<< (f - min e f).toNat : Nat)) (min e f) _)) = _
      generalize sign.apply (m <<< (e - min e f).toNat : Nat) +
        other.apply (n <<< (f - min e f).toNat : Nat) = sum at nonzero ⊢
      have step : (0 : ℚ) < 2 ^ min e f := zpow_pos two_pos _
      have negative : decide ((sum : ℚ) * 2 ^ min e f < 0) = decide (sum < 0) := by
        rw [decide_eq_decide, ← Int.cast_lt_zero (R := ℚ)]
        exact ⟨fun below => neg_of_mul_neg_left below step.le,
          fun below => mul_neg_of_neg_of_pos below step⟩
      rw [negative]
      refine normalize_rounds ?_ _ _
      rintro rfl
      rw [Int.cast_zero, zero_mul] at nonzero
      exact nonzero rfl

/-- Numbers that cancel leave a zero. -/
private theorem add_of_cancel {a b : UnpackedFloat} (first : Settled a) (second : Settled b)
    (cancel : amount a + amount b = 0) :
    ∃ sign, UnpackedFloat.add .binary64 a b = .zero sign := by
  have alone : ∀ {n : Nat} {f : Int} (other : Sign) (filled : 0 < n),
      amount (.finite other n f filled) ≠ 0 := by
    intro n f other filled
    have digits : (n : ℚ) ≠ 0 := by exact_mod_cast filled.ne'
    refine mul_ne_zero ?_ (zpow_ne_zero f two_ne_zero)
    cases other <;> simpa [Sign.apply] using digits
  cases first with
  | zero sign =>
    cases second with
    | zero other => cases sign <;> cases other <;> exact ⟨_, rfl⟩
    | finite _ other filled => exact absurd ((zero_add _).symm.trans cancel) (alone other filled)
  | @finite m e _ sign positive =>
    cases second with
    | zero => exact absurd ((add_zero _).symm.trans cancel) (alone sign positive)
    | @finite n f _ other filled =>
      rw [amount_add] at cancel
      have none := (mul_eq_zero.mp cancel).resolve_right (zpow_ne_zero _ two_ne_zero)
      rw [Int.cast_eq_zero] at none
      change ∃ _, UnpackedFloat.normalize _ (sign.apply (m <<< (e - min e f).toNat : Nat) +
          other.apply (n <<< (f - min e f).toNat : Nat)) (min e f) _ = _
      rw [none]
      exact ⟨_, rfl⟩

/-- A sum that is not too large is finite. -/
private theorem pack_add_isFinite {a b : UnpackedFloat} (first : Settled a) (second : Settled b)
    (small : |amount a + amount b| < 2 ^ 1024 - 2 ^ 970) :
    (Float.ofModel (Float.Model.pack (UnpackedFloat.add .binary64 a b))).isFinite = true := by
  by_cases cancel : amount a + amount b = 0
  · obtain ⟨sign, zero⟩ := add_of_cancel first second cancel
    rw [zero]
    cases sign <;> decide +kernel
  · obtain ⟨rounded, target, rounds, sum⟩ := pack_add_rounds first second cancel
    rw [sum]
    exact (isFinite_signed _ rounds.aligned).mpr (rounds.finite_iff.mpr small)

/-- A difference is the sum with the opposite number. -/
private theorem sub_eq_add (a b : UnpackedFloat) :
    UnpackedFloat.sub .binary64 a b = UnpackedFloat.add .binary64 a b.neg := by
  cases a with
  | notANumber => rfl
  | infinity sign => cases b <;> rfl
  | zero sign => cases b <;> rfl
  | finite sign m e positive =>
    cases b with
    | notANumber | infinity | zero => rfl
    | finite other n f filled =>
      cases other with
      | negative =>
        change UnpackedFloat.normalize _ (_ - -_) _ _ = UnpackedFloat.normalize _ (_ + _) _ _
        rw [Int.sub_neg]
        rfl
      | positive => rfl

section Floats

variable {x y : Float}

theorem isFinite_add (first : x.isFinite = true) (second : y.isFinite = true)
    (small : |value x + value y| < 2 ^ 1024 - 2 ^ 970) : (x + y).isFinite = true := by
  rw [value_eq, value_eq] at small
  exact pack_add_isFinite (settled_unpack first) (settled_unpack second) small

theorem isFinite_sub (first : x.isFinite = true) (second : y.isFinite = true)
    (small : |value x - value y| < 2 ^ 1024 - 2 ^ 970) : (x - y).isFinite = true := by
  change (Float.ofModel (Float.Model.pack
    (UnpackedFloat.sub .binary64 x.toModel.unpack y.toModel.unpack))).isFinite = true
  rw [sub_eq_add]
  refine pack_add_isFinite (settled_unpack first) (settled_unpack second).neg ?_
  rwa [amount_neg, ← value_eq, ← value_eq, ← sub_eq_add_neg]

/-- A small number does not take a finite one out of range. -/
theorem abs_value_add_lt (finite : x.isFinite = true) {w : ℚ} (small : |w| ≤ 2 ^ 10) :
    |value x + w| < 2 ^ 1024 - 2 ^ 970 := by
  obtain ⟨negative, mantissa, exponent, written⟩ := isFinite_iff.mp finite
  obtain ⟨⟨below, -, -⟩, high⟩ := canonical_of_parts written
  have digits : (mantissa : ℚ) + 1 ≤ 2 ^ 53 := by exact_mod_cast below
  have greatest : |value x| ≤ (2 ^ 54 - 2) * 2 ^ (970 : Int) := by
    have magnitude : |value x| = mantissa * 2 ^ exponent := by
      simp only [value, written]
      rw [abs_mul, abs_of_nonneg (by positivity : (0 : ℚ) ≤ mantissa * 2 ^ exponent)]
      cases negative <;> simp
    calc |value x| = mantissa * 2 ^ exponent := magnitude
      _ ≤ (2 ^ 53 - 1) * 2 ^ (971 : Int) := by
        gcongr
        · linarith
        · exact one_le_two
      _ = (2 ^ 54 - 2) * 2 ^ (970 : Int) := by
        rw [show (971 : Int) = 970 + 1 from rfl, zpow_add_one₀ two_ne_zero]
        ring
  have far : |w| < 2 ^ (970 : Int) :=
    lt_of_le_of_lt small (zpow_lt_zpow_right₀ one_lt_two (by decide : (10 : Int) < 970))
  rw [Rounds.limit_eq]
  generalize (2 : ℚ) ^ (970 : Int) = step at greatest far ⊢
  calc |value x + w| ≤ |value x| + |w| := abs_add_le _ _
    _ < (2 ^ 54 - 1) * step := by linarith

/-- A sum is negative only if the exact one is. -/
theorem add_eq_signed (first : x.isFinite = true) (second : y.isFinite = true)
    (positive : 0 < value x + value y) :
    ∃ rounded target, Aligned rounded target ∧ x + y = signed false (magnitudeOf rounded target) := by
  rw [value_eq, value_eq] at positive
  obtain ⟨rounded, target, rounds, sum⟩ :=
    pack_add_rounds (settled_unpack first) (settled_unpack second) positive.ne'
  rw [decide_eq_false (not_lt.mpr positive.le)] at sum
  exact ⟨rounded, target, rounds.aligned, sum⟩

end Floats

end TurtleScript.Binary64
