import TurtleScript.Proofs.Grammar
import TurtleScript.Proofs.Numerals
import TurtleScript.Proofs.Rounding

/-!
Words that are numbers. A literal is rounded once, to the double-precision number nearest to what it
stands for; the scales that decide the answer by themselves give the same number as rounding would.
So the words that are numbers are the decimal numerals that do not round to an infinity, and the
counts of repetitions are those whose number is a whole one in range.
-/
namespace TurtleScript

/-! ## Rounded literals -/

namespace Literal

open Binary64

private theorem infinity_eq (negative : Bool) :
    infinity negative = signed negative (0x7FF * 2 ^ 52) := by
  cases negative <;> decide +kernel

/-- What is below half of the least number is rounded to zero. -/
private theorem rounds_of_tiny {v : ℚ} (nonneg : 0 ≤ v) (tiny : v < 2 ^ (-1075 : Int)) :
    Rounds v 0 (-1074) := by
  have positive : (0 : ℚ) < 2 ^ (-1074 : Int) := zpow_pos two_pos _
  have half : (2 : ℚ) ^ (-1075 : Int) = 1 / 2 * 2 ^ (-1074 : Int) := by
    rw [show (-1075 : Int) = -1074 - 1 from rfl, zpow_sub_one₀ two_ne_zero]
    ring
  rw [half] at tiny
  refine ⟨le_rfl, .inl rfl, ?_, .zero (div_nonneg nonneg positive.le) ?_⟩
  · generalize (2 : ℚ) ^ (-1074 : Int) = least at positive tiny ⊢
    linarith
  · rwa [div_lt_iff₀ positive]

/-- A scale far below the number of digits makes a literal tiny: ten is more than two to the third. -/
private theorem tiny_of_scale {digits : Nat} {scale : Int}
    (far : -scale > 401 + Int.ofNat digits.log2) :
    (digits : ℚ) * 10 ^ scale < 2 ^ (-1075 : Int) := by
  rw [Int.ofNat_eq_natCast] at far
  obtain ⟨places, rfl⟩ : ∃ places : Nat, scale = -(places : Int) := ⟨(-scale).toNat, by omega⟩
  have below : (digits : ℚ) < 2 ^ (digits.log2 + 1) := by exact_mod_cast Nat.lt_log2_self
  have tens : ((10 : ℚ) ^ places)⁻¹ ≤ (2 ^ (3 * places))⁻¹ := by
    rw [pow_mul]
    gcongr
    norm_num
  rw [zpow_neg, zpow_natCast]
  calc (digits : ℚ) * (10 ^ places)⁻¹ ≤ digits * (2 ^ (3 * places))⁻¹ := by gcongr
    _ < 2 ^ (digits.log2 + 1) * (2 ^ (3 * places))⁻¹ := by gcongr
    _ = 2 ^ ((digits.log2 + 1 : Int) - 3 * places) := by
      rw [zpow_sub₀ two_ne_zero, ← div_eq_mul_inv]
      norm_cast
    _ ≤ 2 ^ (-1075 : Int) := zpow_le_zpow_right₀ one_le_two (by omega)

/-- A great scale makes a literal larger than any number. -/
private theorem limit_le_of_scale {digits : Nat} {scale : Int} (filled : digits ≠ 0)
    (far : scale > 310) : (2 : ℚ) ^ 1024 - 2 ^ 970 ≤ digits * 10 ^ scale := by
  have one : (1 : ℚ) ≤ digits := by exact_mod_cast Nat.one_le_iff_ne_zero.mpr filled
  have power : (2 : ℚ) ^ 1024 ≤ 10 ^ (311 : Int) := by
    have whole : 2 ^ 1024 ≤ 10 ^ 311 := by decide +kernel
    exact_mod_cast whole
  calc (2 : ℚ) ^ 1024 - 2 ^ 970 ≤ 2 ^ 1024 := sub_le_self _ (by positivity)
    _ ≤ 10 ^ (311 : Int) := power
    _ ≤ 10 ^ scale := zpow_le_zpow_right₀ (by norm_num) (by omega)
    _ ≤ digits * 10 ^ scale := le_mul_of_one_le_left (by positivity) one

private theorem cast_tenTo (power : Nat) : ((tenTo power : Nat) : ℚ) = 10 ^ power := by
  simp [tenTo]

/-- A literal without places after the point is a whole number. -/
private theorem whole_of_scale (digits : Nat) {scale : Int} (nonneg : 0 ≤ scale) :
    (digits : ℚ) * 10 ^ scale = (digits * tenTo scale.toNat : Nat) * 2 ^ (0 : Int) := by
  obtain ⟨power, rfl⟩ := Int.eq_ofNat_of_zero_le nonneg
  rw [Int.toNat_natCast, zpow_natCast, Nat.cast_mul, cast_tenTo, zpow_zero, mul_one]

/-- A literal is rounded, also where its scale decides the answer. -/
private theorem toFloat_rounds (l : Literal) :
    ∃ rounded target, Rounds (l.digits * 10 ^ l.scale) rounded target ∧
      l.toFloat = signed l.negative (magnitudeOf rounded target) := by
  unfold toFloat
  split
  · rename_i empty
    rw [empty, Nat.cast_zero, zero_mul]
    exact ⟨0, -1074, rounds_of_tiny le_rfl (zpow_pos two_pos _), rfl⟩
  · rename_i filled
    split
    · rename_i far
      -- Its whole number could be rounded as any other, but it is too large.
      obtain ⟨rounded, target, rounds, -⟩ :=
        scaled_rounds l.negative (l.digits * tenTo l.scale.toNat) 0
      rw [← whole_of_scale _ (by omega)] at rounds
      refine ⟨rounded, target, rounds, ?_⟩
      have infinite := mt rounds.finite_iff.mp (not_lt.mpr (limit_le_of_scale filled far))
      rw [infinity_eq, (magnitudeOf_le rounded target).antisymm (not_lt.mp infinite)]
    · split
      · rename_i far
        exact ⟨0, -1074, rounds_of_tiny (by positivity) (tiny_of_scale far), rfl⟩
      · split
        · rename_i nonneg
          rw [whole_of_scale _ nonneg]
          exact scaled_rounds l.negative _ 0
        · rename_i negative
          have quotient : (l.digits : ℚ) * 10 ^ l.scale =
              l.digits / (tenTo (-l.scale).toNat : Nat) := by
            obtain ⟨places, scale⟩ : ∃ places : Nat, l.scale = -(places : Int) :=
              ⟨(-l.scale).toNat, by omega⟩
            rw [scale, Int.neg_neg, Int.toNat_natCast, zpow_neg, zpow_natCast, cast_tenTo,
              div_eq_mul_inv]
          rw [quotient]
          exact ratio_rounds l.negative filled (Nat.pow_pos (by decide)).ne'

private theorem abs_value (l : Literal) : |l.value| = l.digits * 10 ^ l.scale := by
  unfold value
  rw [abs_mul, abs_of_nonneg (by positivity : (0 : ℚ) ≤ l.digits * 10 ^ l.scale)]
  cases l.negative <;> simp

/-- A literal is finite below the middle between the greatest number and the next power of two. -/
theorem isFinite_toFloat (l : Literal) :
    l.toFloat.isFinite = true ↔ |l.value| < 2 ^ 1024 - 2 ^ 970 := by
  obtain ⟨rounded, target, rounds, bits⟩ := l.toFloat_rounds
  rw [bits, isFinite_signed l.negative rounds.aligned, rounds.finite_iff, abs_value]

/-- A finite literal is the number nearest to what it stands for, with its sign. -/
theorem toFloat_nearest {l : Literal} (finite : l.toFloat.isFinite = true) :
    Nearest l.value l.toFloat ∧ isNegative l.toFloat = l.negative := by
  rw [isFinite_toFloat, abs_value] at finite
  obtain ⟨rounded, target, rounds, bits⟩ := l.toFloat_rounds
  rw [bits]
  refine ⟨rounds.nearest_signed finite l.negative, ?_⟩
  have size := magnitudeOf_le rounded target
  have high : twoTo 63 = 2 ^ 63 := rfl
  unfold isNegative
  rw [toBits_signed _ size, high]
  cases l.negative with
  | false =>
    rw [if_neg Bool.false_ne_true, beq_eq_false_iff_ne]
    omega
  | true =>
    rw [if_pos rfl, beq_iff_eq]
    omega

end Literal

/-! ## Whole numbers -/

namespace Binary64

/-- The mantissa with its sign. -/
private def signedMantissa (negative : Bool) (mantissa : Nat) : Int :=
  if negative then -Int.ofNat mantissa else Int.ofNat mantissa

private theorem value_of_parts {x : Float} {negative : Bool} {mantissa : Nat} {exponent : Int}
    (written : parts x = .finite negative mantissa exponent) :
    value x = signedMantissa negative mantissa * 2 ^ exponent := by
  simp only [value, written, signedMantissa]
  cases negative <;> simp

/-- The signed mantissa divides as the mantissa does. -/
private theorem dvd_signedMantissa (negative : Bool) (mantissa power : Nat) :
    ((twoTo power : Nat) : Int) ∣ signedMantissa negative mantissa ↔
      mantissa % twoTo power = 0 := by
  unfold signedMantissa
  rw [← Nat.dvd_iff_mod_eq_zero, ← Int.natCast_dvd_natCast]
  cases negative <;> simp

/-- A number is the whole number that is found in it. -/
theorem whole?_eq_some_iff {x : Float} {n : Int} :
    whole? x = some n ↔ x.isFinite = true ∧ value x = n := by
  rw [isFinite_iff]
  unfold whole?
  cases written : parts x with
  | nan | infinite => simp
  | finite negative mantissa exponent =>
    have trunc : truncOf negative mantissa exponent =
        if 0 ≤ exponent then signedMantissa negative mantissa * twoTo exponent.toNat
        else Int.tdiv (signedMantissa negative mantissa) (twoTo (-exponent).toNat) := rfl
    have divides := dvd_signedMantissa negative mantissa (-exponent).toNat
    have finite : ∃ sign m e, Parts.finite negative mantissa exponent = .finite sign m e :=
      ⟨_, _, _, rfl⟩
    rw [value_of_parts written, and_iff_right finite]
    dsimp only
    rw [trunc]
    generalize signedMantissa negative mantissa = m at divides ⊢
    by_cases nonneg : 0 ≤ exponent
    · have whole : (m : ℚ) * 2 ^ exponent = (m * twoTo exponent.toNat : Int) := by
        have steps := twoTo_mul_zpow nonneg
        rw [Int.sub_zero, zpow_zero, mul_one] at steps
        rw [← steps]
        push_cast
        rfl
      rw [if_pos nonneg, whole, Int.cast_inj, if_pos (by simp [nonneg]), Option.some.injEq]
    · have step : (0 : ℚ) < 2 ^ exponent := zpow_pos two_pos _
      have unit := twoTo_mul_zpow_of_nonpos (by omega : exponent ≤ 0)
      -- The number is whole if the mantissa is that many steps.
      have multiple : (m : ℚ) * 2 ^ exponent = n ↔ m = n * twoTo (-exponent).toNat := by
        constructor
        · intro whole
          have steps : (m : ℚ) = (n * twoTo (-exponent).toNat : Int) := by
            refine mul_right_cancel₀ step.ne' ?_
            rw [whole, Int.cast_mul, Int.cast_natCast, mul_assoc, unit, mul_one]
          exact_mod_cast steps
        · intro whole
          rw [whole, Int.cast_mul, Int.cast_natCast, mul_assoc, unit, mul_one]
      rw [if_neg nonneg, multiple]
      by_cases even : mantissa % twoTo (-exponent).toNat = 0
      · rw [if_pos (by simp [even]), Option.some.injEq]
        have filled : ((twoTo (-exponent).toNat : Nat) : Int) ≠ 0 := by
          exact_mod_cast (Nat.two_pow_pos _).ne'
        constructor
        · rintro rfl
          exact (Int.tdiv_mul_cancel (divides.mpr even)).symm
        · rintro rfl
          exact Int.mul_tdiv_cancel n filled
      · rw [if_neg (by simp [nonneg, even])]
        refine iff_of_false nofun fun whole => even (divides.mp ?_)
        exact ⟨n, by rw [whole, Int.mul_comm]⟩

end Binary64

/-! ## Words and counts -/

private theorem wordNumber?_eq_some_iff {word : String} {x : Float} :
    wordNumber? word = some x ↔ ∃ l, Literal.read? (· = 'E') word.toList = some l ∧
      l.toFloat.isFinite = true ∧ l.toFloat = x := by
  unfold wordNumber?
  cases Literal.read? (· = 'E') word.toList with
  | none => simp
  | some l => simp

/-- A repetition is refused for what stands in the place of its count. -/
def Step.RefusesCount (step : Step) : Prop :=
  ∃ line, step.outcome = .refusal ⟨.needsCount, false, line⟩ ∨
    step.outcome = .refusal ⟨.countOutOfRange, false, line⟩

section Counts

variable {keywords : Keywords} {s : TokenStream}
  {readBody : (body : List Token) → body.length < s.rest.length → List Step}

/-- What is no number, or no count, is refused. -/
private theorem refusesCount_of_uncounted
    (uncounted : s.advance.current.number?.bind wholeCount? = none) :
    (stepRepeat keywords s readBody).RefusesCount := by
  unfold stepRepeat
  cases numeric : s.advance.current.number? with
  | none =>
    simp only [numeric]
    exact ⟨_, .inl rfl⟩
  | some x =>
    have out : wholeCount? x = none := by rwa [numeric] at uncounted
    simp only [numeric, out]
    exact ⟨_, .inr rfl⟩

/-- A count is not refused: whatever else is wrong has another cause, or lies in the body. The
command that comes of the repetition has the count. -/
private theorem counted_step {n : Int}
    (counted : s.advance.current.number?.bind wholeCount? = some n) :
    ¬ (stepRepeat keywords s readBody).RefusesCount ∧
      ∀ c, (stepRepeat keywords s readBody).outcome = .command c → c.value = some (.whole n) := by
  obtain ⟨x, numeric, whole⟩ := Option.bind_eq_some_iff.mp counted
  unfold stepRepeat Step.RefusesCount
  simp only [numeric, whole]
  split
  · split
    · simp [Step.refuse]
    · split
      · simp [Step.refuse]
      · dsimp only
        split
        · simp [Diagnostic.fromInside]
        · refine ⟨by simp, ?_⟩
          rintro c ⟨⟩
          rfl
  · simp [Step.refuse]

private theorem not_refusesCount_iff :
    ¬ (stepRepeat keywords s readBody).RefusesCount ↔
      ∃ n, s.advance.current.number?.bind wholeCount? = some n := by
  cases found : s.advance.current.number?.bind wholeCount? with
  | none =>
    have refused : (stepRepeat keywords s readBody).RefusesCount := refusesCount_of_uncounted found
    simpa using refused
  | some n =>
    exact ⟨fun _ => ⟨n, rfl⟩, fun _ => (counted_step found).1⟩

private theorem counted_of_command {c : Command}
    (given : (stepRepeat keywords s readBody).outcome = .command c) :
    ∃ n, s.advance.current.number?.bind wholeCount? = some n ∧ c.value = some (.whole n) := by
  have accepted : ¬ (stepRepeat keywords s readBody).RefusesCount := by
    rintro ⟨line, refused | refused⟩ <;> cases given.symm.trans refused
  obtain ⟨n, counted⟩ := not_refusesCount_iff.mp accepted
  exact ⟨n, counted, (counted_step counted).2 c given⟩

end Counts

/-- A word counts repetitions if its value is a whole number in range. -/
private theorem counts_iff {word : String} {n : Int} :
    (wordNumber? word).bind wholeCount? = some n ↔
      ∃ x, wordNumber? word = some x ∧ Binary64.value x = n ∧ 1 ≤ n ∧ n ≤ 1000 := by
  rw [Option.bind_eq_some_iff]
  refine exists_congr fun x => and_congr_right fun found => ?_
  obtain ⟨l, -, finite, rfl⟩ := wordNumber?_eq_some_iff.mp found
  rw [wholeCount?_eq_some, Binary64.whole?_eq_some_iff, and_iff_right finite]

/-- The words that are numbers are the decimal numerals that denote less than the middle between the
greatest number and the next power of two. A numeral denotes one fraction, the value of the word is
the double-precision number nearest to it, with a minus sign if the numeral has one, and the word
counts repetitions if that value is a whole number from 1 to 1000. -/
theorem number_words_are_finite_numerals (word : String) (line column : Int) :
    let token : Token := ⟨.word, word, line, column⟩
    (token.number?.isSome = true ↔ ∃ v, Numeral word.toList v ∧ |v| < 2 ^ 1024 - 2 ^ 970) ∧
    (∀ v w, Numeral word.toList v → Numeral word.toList w → v = w) ∧
    (∀ x v, token.number? = some x → Numeral word.toList v →
      Binary64.Nearest v x ∧ (Binary64.isNegative x = true ↔ word.toList.head? = some '-')) ∧
    ∀ (keywords : Keywords) (position : Nat) (first : Token) (rest : List Token)
      (readBody : (body : List Token) → body.length < (first :: token :: rest).length → List Step),
      let step := stepRepeat keywords ⟨position, first :: token :: rest⟩ readBody
      (¬ step.RefusesCount ↔ ∃ x, ∃ n : Int,
        token.number? = some x ∧ Binary64.value x = n ∧ 1 ≤ n ∧ n ≤ 1000) ∧
      ∀ c, step.outcome = .command c → ∃ x, ∃ n : Int,
        token.number? = some x ∧ Binary64.value x = n ∧ c.value = some (.whole n) := by
  intro token
  have number : token.number? = wordNumber? word := rfl
  rw [number]
  refine ⟨?_, ?_, ?_, ?_⟩
  · rw [Option.isSome_iff_exists]
    constructor
    · rintro ⟨x, found⟩
      obtain ⟨l, read, finite, -⟩ := wordNumber?_eq_some_iff.mp found
      exact ⟨l.value, (Literal.numeral_of_read read).1, l.isFinite_toFloat.mp finite⟩
    · rintro ⟨v, numeral, small⟩
      obtain ⟨l, read, rfl⟩ := Literal.read_of_numeral numeral
      exact ⟨_, wordNumber?_eq_some_iff.mpr ⟨l, read, l.isFinite_toFloat.mpr small, rfl⟩⟩
  · intro v w one other
    obtain ⟨l, read, rfl⟩ := Literal.read_of_numeral one
    obtain ⟨m, again, rfl⟩ := Literal.read_of_numeral other
    cases read.symm.trans again
    rfl
  · intro x v found numeral
    obtain ⟨l, read, finite, rfl⟩ := wordNumber?_eq_some_iff.mp found
    obtain ⟨m, again, rfl⟩ := Literal.read_of_numeral numeral
    cases read.symm.trans again
    obtain ⟨nearest, sign⟩ := Literal.toFloat_nearest finite
    rw [sign]
    exact ⟨nearest, (Literal.numeral_of_read read).2⟩
  · intro keywords position first rest readBody step
    refine ⟨not_refusesCount_iff.trans ?_, ?_⟩
    · change (∃ n, (wordNumber? word).bind wholeCount? = some n) ↔ _
      simp only [counts_iff]
      exact exists_comm
    · intro c given
      obtain ⟨n, counted, value⟩ := counted_of_command given
      obtain ⟨x, found, whole, -⟩ := counts_iff.mp counted
      exact ⟨x, n, found, whole, value⟩

/-- Just below the middle to the next power of two a word is a number, and just above it is none. -/
example : (wordNumber? "1.7976931348623158E308").isSome = true ∧
    wordNumber? "1.7976931348623159E308" = none := by
  decide +kernel

/-- Digits of two scripts, a point and an exponent make twenty-five, and a repetition takes it as its
count. -/
theorem number_words_are_finite_numerals_of_two_scripts :
    let token : Token := ⟨.word, "+٢.5E1", 1, 8⟩
    token.number? = some 25.0 ∧ Numeral "+٢.5E1".toList 25 ∧ Binary64.Nearest 25 25.0 ∧
      ∀ (keywords : Keywords) (position : Nat) (first : Token) (rest : List Token)
        (readBody : (body : List Token) → body.length < (first :: token :: rest).length →
          List Step),
        ¬ (stepRepeat keywords ⟨position, first :: token :: rest⟩ readBody).RefusesCount := by
  intro token
  obtain ⟨-, -, nearest, counts⟩ := number_words_are_finite_numerals "+٢.5E1" 1 8
  have number : token.number? = some 25.0 := by decide +kernel
  have numeral : Numeral "+٢.5E1".toList 25 := by
    have digit : ∀ c d, Text.digitValue? c = some d → DigitRun [c] d := by
      intro c d valued
      have run := DigitRun.snoc .nil valued
      rwa [Nat.mul_zero, Nat.zero_add] at run
    have parts := Numeral.parts .plus (.pointed (digit '٢' 2 rfl) nofun (digit '5' 5 rfl))
      (.marked .none (digit '1' 1 rfl) nofun)
    convert parts using 1
    · rfl
    · norm_num
  have value : Binary64.value 25.0 = (25 : Int) := by
    have parts : Binary64.parts 25.0 = .finite false (25 * 2 ^ 48) (-48) := by decide +kernel
    simp only [Binary64.value, parts]
    norm_num
  refine ⟨number, numeral, (nearest _ _ number numeral).1, ?_⟩
  intro keywords position first rest readBody
  exact (counts keywords position first rest readBody).1.mpr
    ⟨25.0, 25, number, value, by decide, by decide⟩

end TurtleScript
