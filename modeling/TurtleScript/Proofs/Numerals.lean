import Mathlib.Algebra.Order.Field.Power
import Mathlib.Data.List.Induction
import Mathlib.Tactic.FieldSimp
import Mathlib.Tactic.Linarith
import Mathlib.Tactic.NormNum
import Mathlib.Tactic.Ring
import TurtleScript.Number.Literal

/-!
The spelling of decimal numerals. Which texts are numerals, and which fraction each of them denotes,
is said by a grammar that follows the parts of a numeral; a literal is read from a text exactly if
the text is a numeral, and it stands for what the numeral denotes.
-/
namespace TurtleScript

open Text

/-! ## The grammar -/

/-- An optional sign; the flag says whether it is a minus. -/
inductive SignMark : List Char → Bool → Prop
  | none : SignMark [] false
  | plus : SignMark ['+'] false
  | minus : SignMark ['-'] true

/-- Decimal digits of any script, and the whole number that they denote. -/
inductive DigitRun : List Char → Nat → Prop
  | nil : DigitRun [] 0
  | snoc {cs : List Char} {n : Nat} {c : Char} {digit : Nat} (run : DigitRun cs n)
    (valued : digitValue? c = some digit) : DigitRun (cs ++ [c]) (10 * n + digit)

/-- The digits of a numeral: at least one, with a point after, among or before them. -/
inductive Mantissa : List Char → ℚ → Prop
  | whole {cs : List Char} {n : Nat} (run : DigitRun cs n) (filled : cs ≠ []) : Mantissa cs n
  | pointed {cs ds : List Char} {n m : Nat} (run : DigitRun cs n) (filled : cs ≠ [])
    (fraction : DigitRun ds m) : Mantissa (cs ++ '.' :: ds) (n + m / 10 ^ ds.length)
  | fraction {ds : List Char} {m : Nat} (run : DigitRun ds m) (filled : ds ≠ []) :
    Mantissa ('.' :: ds) (m / 10 ^ ds.length)

/-- An optional exponent: an upper-case mark, an optional sign and at least one digit. -/
inductive Exponent : List Char → Int → Prop
  | none : Exponent [] 0
  | marked {sign cs : List Char} {negative : Bool} {n : Nat} (signed : SignMark sign negative)
    (run : DigitRun cs n) (filled : cs ≠ []) :
    Exponent ('E' :: (sign ++ cs)) (if negative then -n else n)

/-- A decimal numeral, and the fraction that it denotes. -/
inductive Numeral : List Char → ℚ → Prop
  | parts {sign mantissa exponent : List Char} {negative : Bool} {m : ℚ} {e : Int}
    (signed : SignMark sign negative) (digits : Mantissa mantissa m)
    (scaled : Exponent exponent e) :
    Numeral (sign ++ mantissa ++ exponent) ((if negative then -1 else 1) * (m * 10 ^ e))

/-! ## Digits -/

/-- The characters of digits of certain values. -/
private def Spells (cs : List Char) (digits : List Nat) : Prop :=
  cs.map digitValue? = digits.map some

private theorem Spells.length_eq {cs : List Char} {digits : List Nat} (spells : Spells cs digits) :
    cs.length = digits.length := by
  simpa using congrArg List.length spells

private theorem Spells.ne_nil {cs : List Char} {digits : List Nat} (spells : Spells cs digits)
    (filled : cs ≠ []) : digits ≠ [] := by
  rintro rfl
  exact filled (List.map_eq_nil_iff.mp spells)

private theorem digitsValue_append (first second : List Nat) :
    digitsValue (first ++ second) =
      digitsValue first * 10 ^ second.length + digitsValue second := by
  induction second using List.reverseRecOn with
  | nil => simp [digitsValue]
  | append_singleton second digit ih =>
    rw [← List.append_assoc, digitsValue_snoc, digitsValue_snoc, ih, List.length_append,
      List.length_singleton, pow_succ]
    ring

/-- Digits denote what they are worth. The induction is on the digits from the last one back. -/
private theorem Spells.run {cs : List Char} {digits : List Nat} (spells : Spells cs digits) :
    DigitRun cs (digitsValue digits) := by
  induction digits using List.reverseRecOn generalizing cs with
  | nil =>
    cases List.map_eq_nil_iff.mp spells
    exact .nil
  | append_singleton digits digit ih =>
    unfold Spells at spells
    rw [List.map_append, List.map_singleton] at spells
    obtain ⟨front, last, rfl, before, after⟩ := List.map_eq_append_iff.mp spells
    obtain ⟨c, rfl, valued⟩ := List.map_eq_singleton_iff.mp after
    rw [digitsValue_snoc]
    exact .snoc (ih before) valued

private theorem DigitRun.spells {cs : List Char} {n : Nat} (run : DigitRun cs n) :
    ∃ digits, Spells cs digits ∧ digitsValue digits = n := by
  induction run with
  | nil => exact ⟨[], rfl, rfl⟩
  | snoc _ valued ih =>
    obtain ⟨digits, spells, rfl⟩ := ih
    refine ⟨digits ++ [_], ?_, digitsValue_snoc digits _⟩
    unfold Spells at spells ⊢
    rw [List.map_append, List.map_append, spells, List.map_singleton, valued, List.map_singleton]

/-- No digit stands in front. -/
private def DigitFree (cs : List Char) : Prop :=
  ∀ c, cs.head? = some c → digitValue? c = none

namespace Literal

/-- The digits in front are taken off. -/
private theorem takeDigits_append {cs rest : List Char} {digits : List Nat}
    (spells : Spells cs digits) (free : DigitFree rest) :
    takeDigits (cs ++ rest) = (digits, rest) := by
  induction cs generalizing digits with
  | nil =>
    cases List.map_eq_nil_iff.mp spells.symm
    cases rest with
    | nil => rfl
    | cons c rest => simp only [List.nil_append, takeDigits, free c rfl]
  | cons c cs ih =>
    obtain ⟨digit, others, rfl, valued, more⟩ := List.map_eq_cons_iff.mp spells.symm
    simp only [List.cons_append, takeDigits, ← valued, ih more.symm]

private theorem takeDigits_split (cs : List Char) :
    ∃ front, cs = front ++ (takeDigits cs).2 ∧ Spells front (takeDigits cs).1 := by
  induction cs with
  | nil => exact ⟨[], rfl, rfl⟩
  | cons c rest ih =>
    obtain ⟨front, split, spells⟩ := ih
    simp only [takeDigits]
    cases valued : digitValue? c with
    | none => exact ⟨[], rfl, rfl⟩
    | some digit =>
      refine ⟨c :: front, by simp [← split], ?_⟩
      unfold Spells at spells ⊢
      simp only [List.map_cons, valued, spells]

/-! ## Signs and exponents -/

/-- What may follow an optional sign does not start with one. -/
private theorem takeSign_append {sign rest : List Char} {negative : Bool}
    (signed : SignMark sign negative) (unsigned : ∀ c ∈ rest.head?, c ≠ '-' ∧ c ≠ '+') :
    takeSign (sign ++ rest) = (negative, rest) := by
  cases signed with
  | plus | minus => rfl
  | none =>
    cases rest with
    | nil => rfl
    | cons c rest =>
      obtain ⟨noMinus, noPlus⟩ := unsigned c rfl
      unfold takeSign
      split
      · rename_i found
        cases found
        exact absurd rfl noMinus
      · rename_i found
        cases found
        exact absurd rfl noPlus
      · rfl

private theorem takeSign_split (cs : List Char) :
    ∃ sign, cs = sign ++ (takeSign cs).2 ∧ SignMark sign (takeSign cs).1 := by
  unfold takeSign
  split
  · exact ⟨['-'], rfl, .minus⟩
  · exact ⟨['+'], rfl, .plus⟩
  · exact ⟨[], rfl, .none⟩

/-- Digits do not start with a sign. -/
private theorem unsigned_of_spells {cs : List Char} {digits : List Nat} (spells : Spells cs digits)
    (filled : cs ≠ []) (rest : List Char) : ∀ c ∈ (cs ++ rest).head?, c ≠ '-' ∧ c ≠ '+' := by
  obtain ⟨c, others, rfl⟩ := List.exists_cons_of_ne_nil filled
  obtain ⟨digit, more, -, valued, -⟩ := List.map_eq_cons_iff.mp spells.symm
  rintro _ ⟨⟩
  refine ⟨?_, ?_⟩
  · rintro rfl
    cases valued
  · rintro rfl
    cases valued

/-- An exponent is read if it is one. -/
private theorem exponent?_eq_some_iff {cs : List Char} {e : Int} :
    exponent? (· = 'E') cs = some e ↔ Exponent cs e := by
  constructor
  · intro found
    cases cs with
    | nil =>
      cases found
      exact .none
    | cons c rest =>
      simp only [exponent?] at found
      split at found
      · rename_i mark
        obtain ⟨sign, unsigned, signed⟩ := takeSign_split rest
        obtain ⟨front, split, spells⟩ := takeDigits_split (takeSign rest).2
        split at found
        · rename_i digit digits taken
          rw [taken] at split spells
          rw [List.append_nil] at split
          cases found
          have text : c :: rest = 'E' :: (sign ++ front) := by
            rw [of_decide_eq_true mark, ← split, ← unsigned]
          rw [text]
          refine .marked signed spells.run ?_
          rintro rfl
          cases spells
        · cases found
      · cases found
  · intro exponent
    cases exponent with
    | none => rfl
    | @marked sign cs negative n signed run filled =>
      obtain ⟨digits, spells, rfl⟩ := run.spells
      have unsigned := unsigned_of_spells spells filled []
      rw [List.append_nil] at unsigned
      have taken := takeDigits_append spells (nofun : DigitFree [])
      rw [List.append_nil] at taken
      obtain ⟨digit, more, rfl⟩ := List.exists_cons_of_ne_nil (spells.ne_nil filled)
      simp only [exponent?, decide_true, if_true, takeSign_append signed unsigned, taken]
      rfl

/-- An exponent does not start with a digit or a point. -/
private theorem exponent_start {cs : List Char} {e : Int} (exponent : Exponent cs e) :
    DigitFree cs ∧ cs.head? ≠ some '.' := by
  cases exponent with
  | none => exact ⟨nofun, nofun⟩
  | marked =>
    refine ⟨?_, ?_⟩
    · rintro _ ⟨⟩
      decide
    · simp

/-! ## Literals -/

/-- The fraction that a literal stands for. -/
def value (l : Literal) : ℚ :=
  (if l.negative then -1 else 1) * (l.digits * 10 ^ l.scale)

private theorem takeFraction_of_free {cs : List Char} (free : cs.head? ≠ some '.') :
    takeFraction cs = ([], cs) := by
  unfold takeFraction
  split
  · exact absurd rfl free
  · rfl

/-- The digits around a point are worth their joint value, moved by the digits after it. -/
private theorem digitsValue_around (whole fraction : List Nat) :
    (digitsValue (whole ++ fraction) : ℚ) / 10 ^ fraction.length =
      digitsValue whole + digitsValue fraction / 10 ^ fraction.length := by
  rw [digitsValue_append]
  push_cast
  field_simp

/-- The digits of a numeral are taken off the front of what follows its sign. -/
private theorem taken_of_mantissa {cs rest : List Char} {m : ℚ} (mantissa : Mantissa cs m)
    (free : DigitFree rest) (pointless : rest.head? ≠ some '.') :
    (∀ c ∈ (cs ++ rest).head?, c ≠ '-' ∧ c ≠ '+') ∧
    ∃ whole after fraction, takeDigits (cs ++ rest) = (whole, after) ∧
      takeFraction after = (fraction, rest) ∧ (whole.isEmpty && fraction.isEmpty) = false ∧
      m = digitsValue (whole ++ fraction) / 10 ^ fraction.length := by
  have dot : ∀ more, DigitFree ('.' :: more) := by
    rintro more _ ⟨⟩
    decide
  cases mantissa with
  | whole run filled =>
    obtain ⟨digits, spells, rfl⟩ := run.spells
    refine ⟨unsigned_of_spells spells filled rest, digits, rest, [], takeDigits_append spells free,
      takeFraction_of_free pointless, ?_, by simp⟩
    rw [Bool.and_eq_false_iff, List.isEmpty_eq_false_iff]
    exact .inl (spells.ne_nil filled)
  | @pointed cs ds n k run filled after =>
    obtain ⟨digits, spells, rfl⟩ := run.spells
    obtain ⟨fraction, spelled, rfl⟩ := after.spells
    rw [List.append_assoc, List.cons_append]
    refine ⟨unsigned_of_spells spells filled _, digits, '.' :: (ds ++ rest), fraction,
      takeDigits_append spells (dot _), takeDigits_append spelled free, ?_, ?_⟩
    · rw [Bool.and_eq_false_iff, List.isEmpty_eq_false_iff]
      exact .inl (spells.ne_nil filled)
    · rw [digitsValue_around, spelled.length_eq]
  | @fraction ds k run filled =>
    obtain ⟨fraction, spelled, rfl⟩ := run.spells
    have none : Spells [] [] := rfl
    refine ⟨?_, [], '.' :: (ds ++ rest), fraction, takeDigits_append none (dot _),
      takeDigits_append spelled free, ?_, ?_⟩
    · rintro _ ⟨⟩
      decide
    · rw [Bool.and_eq_false_iff, List.isEmpty_eq_false_iff, List.isEmpty_eq_false_iff]
      exact .inr (spelled.ne_nil filled)
    · rw [List.nil_append, spelled.length_eq]

private theorem takeFraction_split (cs : List Char) :
    (∃ front, cs = '.' :: (front ++ (takeFraction cs).2) ∧ Spells front (takeFraction cs).1) ∨
      takeFraction cs = ([], cs) := by
  unfold takeFraction
  split
  · rename_i rest
    obtain ⟨front, split, spells⟩ := takeDigits_split rest
    exact .inl ⟨front, by rw [← split], spells⟩
  · exact .inr rfl

/-- What was taken off the front is the digits of a numeral. -/
private theorem mantissa_of_taken {cs after rest : List Char} {whole fraction : List Nat}
    (first : takeDigits cs = (whole, after)) (second : takeFraction after = (fraction, rest))
    (filled : (whole.isEmpty && fraction.isEmpty) = false) :
    ∃ front, cs = front ++ rest ∧
      Mantissa front (digitsValue (whole ++ fraction) / 10 ^ fraction.length) := by
  obtain ⟨run, split, spells⟩ := takeDigits_split cs
  rw [first] at split spells
  rw [Bool.and_eq_false_iff, List.isEmpty_eq_false_iff, List.isEmpty_eq_false_iff] at filled
  have empty : run = [] → whole = [] := by
    rintro rfl
    exact List.map_eq_nil_iff.mp spells.symm
  obtain ⟨ds, tail, spelled⟩ | untaken := takeFraction_split after
  · rw [second] at tail spelled
    dsimp only at tail spelled
    refine ⟨run ++ '.' :: ds, by rw [split, tail]; simp, ?_⟩
    rw [digitsValue_around, ← spelled.length_eq]
    by_cases alone : run = []
    · have none := empty alone
      subst alone none
      have digits : ds ≠ [] := by
        rintro rfl
        exact (filled.resolve_left fun more => more rfl) (List.map_eq_nil_iff.mp spelled.symm)
      have zero : ((digitsValue [] : Nat) : ℚ) = 0 := Nat.cast_zero
      rw [zero, zero_add]
      exact .fraction spelled.run digits
    · exact .pointed spells.run alone spelled.run
  · rw [second] at untaken
    cases untaken
    refine ⟨run, split, ?_⟩
    rw [List.append_nil, List.length_nil, pow_zero, div_one]
    refine .whole spells.run fun none => ?_
    exact filled.elim (fun more => more (empty none)) fun more => more rfl

private theorem value_eq (negative : Bool) (digits : Nat) (places : Nat) (e : Int) :
    value ⟨negative, digits, e - Int.ofNat places⟩ =
      (if negative then -1 else 1) * (digits / 10 ^ places * 10 ^ e) := by
  have ten : (10 : ℚ) ≠ 0 := by norm_num
  simp only [value, Int.ofNat_eq_natCast, zpow_sub₀ ten, zpow_natCast]
  ring

/-- A text that is read is a numeral, and its literal stands for what it denotes. -/
theorem numeral_of_read {cs : List Char} {l : Literal} (found : read? (· = 'E') cs = some l) :
    Numeral cs l.value ∧ (l.negative = true ↔ cs.head? = some '-') := by
  obtain ⟨sign, unsigned, signed⟩ := takeSign_split cs
  unfold read? at found
  generalize takeSign cs = taken at found unsigned signed
  obtain ⟨negative, rest⟩ := taken
  cases first : takeDigits rest with
  | mk whole after =>
    cases second : takeFraction after with
    | mk fraction last =>
      simp only [first, second] at found
      split at found
      · cases found
      · rename_i filled
        obtain ⟨front, split, digits⟩ := mantissa_of_taken first second (Bool.eq_false_iff.mpr filled)
        obtain ⟨e, exponent, rfl⟩ := Option.map_eq_some_iff.mp found
        have scaled := exponent?_eq_some_iff.mp exponent
        dsimp only at unsigned signed
        rw [value_eq, unsigned, split]
        refine ⟨?_, ?_⟩
        · rw [← List.append_assoc]
          exact .parts signed digits scaled
        · obtain ⟨free, pointless⟩ := exponent_start scaled
          have start := (taken_of_mantissa digits free pointless).1
          cases signed with
          | none => exact ⟨nofun, fun minus => absurd rfl (start '-' minus).1⟩
          | plus => simp
          | minus => simp

/-- A numeral is read, as a literal that stands for what it denotes. -/
theorem read_of_numeral {cs : List Char} {v : ℚ} (numeral : Numeral cs v) :
    ∃ l, read? (· = 'E') cs = some l ∧ l.value = v := by
  cases numeral with
  | @parts sign mantissa exponent negative m e signed digits scaled =>
    obtain ⟨free, pointless⟩ := exponent_start scaled
    obtain ⟨unsigned, whole, after, fraction, first, second, filled, rfl⟩ :=
      taken_of_mantissa digits free pointless
    refine ⟨_, ?_, value_eq negative (digitsValue (whole ++ fraction)) fraction.length e⟩
    unfold read?
    rw [List.append_assoc, takeSign_append signed unsigned]
    simp only [first, second, filled, exponent?_eq_some_iff.mpr scaled]
    rfl

end Literal

end TurtleScript
