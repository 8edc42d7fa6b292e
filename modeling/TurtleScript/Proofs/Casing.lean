import TurtleScript.Language.Token
import TurtleScript.Text.Case

/-!
Upper case is reached in one step: a word that was put in upper case is its own upper case, and it
is still a word. The case tables are what decides it. No character that they send another one to is
one that they change or one that ends a word, and this is checked once for all of their code points,
taken as the bits of numbers.
-/
namespace TurtleScript.Text

/-! ## Sets of code points -/

/-- Code points as the bits of one number. -/
def bits : List Nat → Nat
  | [] => 0
  | code :: rest => (1 <<< code) ||| bits rest

theorem testBit_bits (codes : List Nat) (code : Nat) :
    (bits codes).testBit code = decide (code ∈ codes) := by
  induction codes with
  | nil => simp [bits]
  | cons first rest ih =>
    rw [bits, Nat.testBit_or, ih, Nat.one_shiftLeft, Nat.testBit_two_pow]
    by_cases same : first = code
    · simp [same]
    · simp [same, Ne.symm same]

theorem not_mem_of_bits {codes others : List Nat} (apart : bits codes &&& bits others = 0)
    {code : Nat} (member : code ∈ codes) : code ∉ others := by
  intro other
  have both : (bits codes &&& bits others).testBit code = true := by
    simp [Nat.testBit_and, testBit_bits, member, other]
  simp [apart] at both

/-- The code points of a run. -/
def CaseRun.codes (run : CaseRun) : List Nat :=
  (List.range ((run.last - run.first) / run.step + 1)).map fun i => run.first + i * run.step

theorem CaseRun.mem_codes {run : CaseRun} {code : Nat} (covered : run.covers code = true) :
    code ∈ run.codes := by
  simp only [CaseRun.covers, Bool.and_eq_true, decide_eq_true_eq, beq_iff_eq] at covered
  obtain ⟨⟨least, greatest⟩, even⟩ := covered
  refine List.mem_map.mpr ⟨(code - run.first) / run.step, ?_, ?_⟩
  · have bound := Nat.div_le_div_right (c := run.step) (Nat.sub_le_sub_right greatest run.first)
    exact List.mem_range.mpr (by omega)
  · have whole := Nat.div_mul_cancel (Nat.dvd_of_mod_eq_zero even)
    omega

/-! ## What the tables change, and into what -/

/-- The code points whose upper case is something else. -/
def lowerCodes : List Nat :=
  (List.range 26).map (0x61 + ·) ++ upperExpansions.map Prod.fst ++
    upperRuns.flatMap CaseRun.codes

/-- The code points that they become. -/
def upperCodes : List Nat :=
  (List.range 26).map (0x41 + ·) ++
    (upperExpansions.flatMap fun entry => entry.2.map fun code => (Char.ofNat code).toNat) ++
    upperRuns.flatMap fun run => run.codes.map fun code =>
      (Char.ofNat (Int.ofNat code + run.shift).toNat).toNat

set_option maxRecDepth 10000 in
theorem upperCodes_apart : bits upperCodes &&& bits lowerCodes = 0 := by
  decide +kernel

private theorem basic_letters : ∀ code < 0x80,
    (code ∉ (List.range 26).map (0x61 + ·) →
      (Char.ofNat code).toUpper = Char.ofNat code) ∧
    ((Char.ofNat code).toUpper = Char.ofNat code ∨
      (Char.ofNat code).toUpper.toNat ∈ (List.range 26).map (0x41 + ·)) := by
  decide +kernel

theorem upperChar_of_not_mem {c : Char} (unchanged : c.toNat ∉ lowerCodes) :
    upperChar c = [c] := by
  simp only [lowerCodes, List.mem_append, not_or] at unchanged
  obtain ⟨⟨letter, expansion⟩, run⟩ := unchanged
  unfold upperChar
  split
  · rename_i basic
    have same := (basic_letters c.toNat basic).1 letter
    rw [Char.ofNat_toNat] at same
    rw [same]
  · have unlisted : upperExpansions.lookup c.toNat = none := by
      apply List.lookup_eq_none_iff.mpr
      intro entry member
      have differs : c.toNat ≠ entry.1 :=
        fun same => expansion (List.mem_map.mpr ⟨entry, member, same.symm⟩)
      simpa using differs
    have uncovered : upperRuns.find? (·.covers c.toNat) = none := by
      apply List.find?_eq_none.mpr
      intro found member covered
      exact run (List.mem_flatMap.mpr ⟨found, member, CaseRun.mem_codes covered⟩)
    simp [unlisted, shiftedBy, uncovered]

theorem mem_upperChar {c d : Char} (member : d ∈ upperChar c) :
    upperChar c = [c] ∧ d = c ∨ d.toNat ∈ upperCodes := by
  simp only [upperCodes, List.mem_append]
  unfold upperChar at member ⊢
  split at member
  · rename_i basic
    simp only [List.mem_singleton] at member
    subst member
    have either := (basic_letters c.toNat basic).2
    rw [Char.ofNat_toNat] at either
    rcases either with same | letter
    · exact .inl ⟨by simp [basic, same], same⟩
    · exact .inr (.inl (.inl letter))
  · rename_i above
    split at member
    · rename_i codes listed
      obtain ⟨code, inside, rfl⟩ := List.mem_map.mp member
      obtain ⟨before, after, split, _⟩ := List.lookup_eq_some_iff.mp listed
      refine .inr (.inl (.inr (List.mem_flatMap.mpr ⟨(c.toNat, codes), by simp [split], ?_⟩)))
      exact List.mem_map.mpr ⟨code, inside, rfl⟩
    · simp only [List.mem_singleton] at member
      subst member
      simp only [shiftedBy]
      cases found : upperRuns.find? (·.covers c.toNat) with
      | none => exact .inl ⟨by simp [above], by simp⟩
      | some run =>
        refine .inr (.inr (List.mem_flatMap.mpr ⟨run, List.mem_of_find?_eq_some found, ?_⟩))
        have covered : run.covers c.toNat = true := by simpa using List.find?_some found
        exact List.mem_map.mpr ⟨c.toNat, run.mem_codes covered, rfl⟩

/-! ## Upper case of upper case -/

theorem upperChar_of_mem {c d : Char} (member : d ∈ upperChar c) : upperChar d = [d] := by
  rcases mem_upperChar member with ⟨unchanged, rfl⟩ | upper
  · exact unchanged
  · exact upperChar_of_not_mem (not_mem_of_bits upperCodes_apart upper)

theorem upperChars_of_unchanged {cs : List Char} (unchanged : ∀ c ∈ cs, upperChar c = [c]) :
    upperChars cs = cs := by
  induction cs with
  | nil => rfl
  | cons c rest ih =>
    have first : upperChar c = [c] := unchanged c (by simp)
    have others : upperChars rest = rest := ih fun d member => unchanged d (by simp [member])
    rw [upperChars_cons, first, others]
    rfl

theorem upper_upper (s : String) : upper (upper s) = upper s := by
  have settled : upperChars (upperChars s.toList) = upperChars s.toList := by
    apply upperChars_of_unchanged
    intro d member
    obtain ⟨c, -, inside⟩ := List.mem_flatMap.mp member
    exact upperChar_of_mem inside
  simp [upper, settled]

theorem upperChar_ne_nil (c : Char) : upperChar c ≠ [] := by
  have filled : ∀ entry ∈ upperExpansions, entry.2 ≠ [] := by decide +kernel
  unfold upperChar
  split
  · exact List.cons_ne_nil _ _
  · split
    · rename_i codes listed
      obtain ⟨before, after, split, _⟩ := List.lookup_eq_some_iff.mp listed
      have nonempty : codes ≠ [] := filled (c.toNat, codes) (by simp [split])
      simpa using nonempty
    · exact List.cons_ne_nil _ _

theorem upperChars_ne_nil {cs : List Char} (nonempty : cs ≠ []) : upperChars cs ≠ [] := by
  cases cs with
  | nil => exact absurd rfl nonempty
  | cons c rest => simp [upperChars_cons, upperChar_ne_nil c]

/-! ## Words in upper case -/

/-- The code points of the characters that end a word. -/
def separatorCodes : List Nat :=
  List.range' 0x9 5 ++ List.range' 0x1C 5 ++ List.range' 0x2000 11 ++
    [0x23, 0x3B, 0x5B, 0x5D, 0x85, 0xA0, 0x1680, 0x2028, 0x2029, 0x202F, 0x205F, 0x3000]

theorem mem_separatorCodes {c : Char} (ends : endsWord c = true) : c.toNat ∈ separatorCodes := by
  by_cases separator : isBracket c = true ∨ isCommentMark c = true
  · have one : c = '[' ∨ c = ']' ∨ c = '#' ∨ c = ';' := by
      simpa [isBracket, isCommentMark, commentMarks, or_assoc] using separator
    rcases one with rfl | rfl | rfl | rfl <;> decide
  · have blank : isBlank c = true := by simpa [endsWord, not_or.mp separator] using ends
    simp only [isBlank, Bool.or_eq_true, Bool.and_eq_true, decide_eq_true_eq, beq_iff_eq] at blank
    simp only [separatorCodes, List.mem_append, List.mem_range'_1, List.mem_cons, List.not_mem_nil]
    grind

theorem upperCodes_apart_separators : bits upperCodes &&& bits separatorCodes = 0 := by
  decide +kernel

theorem endsWord_of_mem_upperChar {c d : Char} (unbroken : endsWord c = false)
    (member : d ∈ upperChar c) : endsWord d = false := by
  rcases mem_upperChar member with ⟨-, rfl⟩ | upper
  · exact unbroken
  · exact Bool.eq_false_iff.mpr fun ends =>
      not_mem_of_bits upperCodes_apart_separators upper (mem_separatorCodes ends)

theorem separatorCodes_apart : bits separatorCodes &&& bits lowerCodes = 0 := by
  decide +kernel

/-- What ends a word has no case. -/
theorem upperChar_of_endsWord {c : Char} (ends : endsWord c = true) : upperChar c = [c] :=
  upperChar_of_not_mem (not_mem_of_bits separatorCodes_apart (mem_separatorCodes ends))

/-- Upper case neither makes nor hides what ends a word. -/
theorem upperChars_unbroken_iff {cs : List Char} :
    (∀ d ∈ upperChars cs, endsWord d = false) ↔ ∀ c ∈ cs, endsWord c = false := by
  constructor
  · intro unbroken c member
    cases ends : endsWord c with
    | false => rfl
    | true =>
      have kept : c ∈ upperChars cs :=
        List.mem_flatMap.mpr ⟨c, member, by simp [upperChar_of_endsWord ends]⟩
      rw [← unbroken c kept, ends]
  · intro unbroken d member
    obtain ⟨c, among, inside⟩ := List.mem_flatMap.mp member
    exact endsWord_of_mem_upperChar (unbroken c among) inside

end TurtleScript.Text
