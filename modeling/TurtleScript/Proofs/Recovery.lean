import TurtleScript.Proofs.Accounting
import TurtleScript.Proofs.Brackets
import TurtleScript.Proofs.Likeness

/-!
Recovery is local. A repetition that is refused is refused as a whole, with its block, for one
reason: the reader goes on right after the bracket that closes the block, whatever stands inside,
and reads what follows as if it stood alone. Where that bracket is missing, the block takes all the
rest. So neither is anything inside such a block run, nor does it give complaints of its own.
-/
namespace TurtleScript

/-! ## Reading on -/

/-- Reading from the first stream gives some commands and complaints, and goes on as reading from
the second one. -/
structure Continues (keywords : Keywords) (s : TokenStream) (commands : List Command)
    (complaints : List Diagnostic) (next : TokenStream) : Prop where
  commands : commandsOf (readSteps keywords s) = commands ++ commandsOf (readSteps keywords next)
  complaints : diagnosticsOf (readSteps keywords s) =
    complaints ++ diagnosticsOf (readSteps keywords next)
  left : leftBy s (readSteps keywords s) = leftBy next (readSteps keywords next)

namespace Continues

variable {keywords : Keywords} {s middle next : TokenStream} {commands others : List Command}
  {complaints more : List Diagnostic}

theorem refl (s : TokenStream) : Continues keywords s [] [] s := ⟨rfl, rfl, rfl⟩

theorem trans (first : Continues keywords s commands complaints middle)
    (second : Continues keywords middle others more next) :
    Continues keywords s (commands ++ others) (complaints ++ more) next := by
  refine ⟨?_, ?_, first.left.trans second.left⟩
  · rw [first.commands, second.commands, List.append_assoc]
  · rw [first.complaints, second.complaints, List.append_assoc]

/-- Reading goes on after a step that does not stay. -/
private theorem step (unended : s.atEnd = false) (moves : (firstStep keywords s).stays = false) :
    Continues keywords s (firstStep keywords s).outcome.command?.toList
      (firstStep keywords s).outcome.diagnostic?.toList (firstStep keywords s).next := by
  have steps := readSteps_before_end keywords unended
  simp only [moves] at steps
  refine ⟨?_, ?_, ?_⟩
  · rw [steps, commandsOf_cons]
    rfl
  · rw [steps, diagnosticsOf_cons]
    rfl
  · rw [steps, leftBy_cons]
    rfl

theorem command {c : Command} (unended : s.atEnd = false)
    (given : (firstStep keywords s).outcome = .command c) :
    Continues keywords s [c] [] (firstStep keywords s).next := by
  have moves : (firstStep keywords s).stays = false := by simp only [Step.stays, given]
  have continues := step unended moves
  rw [given] at continues
  exact continues

theorem refusal {d : Diagnostic} (unended : s.atEnd = false)
    (given : (firstStep keywords s).outcome = .refusal d) :
    Continues keywords s [] [d] (firstStep keywords s).next := by
  have moves : (firstStep keywords s).stays = false := by simp only [Step.stays, given]
  have continues := step unended moves
  rw [given] at continues
  exact continues

end Continues

/-- Complete phrases are read to their commands, and reading goes on right after them. -/
theorem continues_phrases {keywords : Keywords} {phrases : List Phrase}
    (fits : Phrase.FitAll keywords phrases) {s : TokenStream} {rest : List Token}
    (spelled : s.rest = Phrase.tokensAll phrases ++ rest) :
    ∃ next, next.rest = rest ∧
      Continues keywords s (Phrase.commands phrases) [] next := by
  induction phrases generalizing s with
  | nil => exact ⟨s, spelled, .refl s⟩
  | cons phrase others ih =>
    obtain ⟨position, tokens⟩ := s
    have front : tokens = phrase.tokens ++ (Phrase.tokensAll others ++ rest) := by
      rw [← List.append_assoc]
      exact spelled
    subst front
    obtain ⟨given, leaves⟩ := firstStep_phrase phrase fits.1 position
      (Phrase.tokensAll others ++ rest)
    have first := Continues.command (before_end_of_phrase fits.1 position _) given
    obtain ⟨next, there, later⟩ := ih fits.2 leaves
    exact ⟨next, there, first.trans later⟩

/-! ## Reading by itself -/

/-- It makes no difference how many tokens were passed before. -/
theorem readSteps_of_rest (keywords : Keywords) (s : TokenStream) :
    (⟨commandsOf (readSteps keywords s), diagnosticsOf (readSteps keywords s)⟩ : Program) =
      readTokens keywords s.rest := by
  have same : AlikeAll keywords .still s.rest s.rest :=
    List.forall₂_same.mpr fun t _ => alike_self keywords t
  have alike := readSteps_alike (.ofList s.rest) s same
  rw [alike.commandsOf, alike.diagnosticsOf]
  exact relocate_still (readTokens keywords s.rest)

theorem Continues.readTokens {keywords : Keywords} {tokens : List Token} {commands : List Command}
    {complaints : List Diagnostic} {next : TokenStream}
    (continues : Continues keywords (.ofList tokens) commands complaints next) :
    readTokens keywords tokens = ⟨commands ++ (readTokens keywords next.rest).commands,
      complaints ++ (readTokens keywords next.rest).errors⟩ := by
  rw [← readSteps_of_rest keywords next, ← continues.commands, ← continues.complaints]
  rfl

theorem readTokens_nil (keywords : Keywords) : readTokens keywords [] = ⟨[], []⟩ := by
  have stopped : readSteps keywords (.ofList []) = [] := by
    rw [readSteps, dif_pos (by rfl)]
  rw [readTokens, stopped]
  rfl

/-! ## Refused repetitions -/

/-- The word of a repetition and a count in range. -/
structure Counted (keywords : Keywords) (word count : Token) : Prop where
  named : keywords.kind? word = some .repetition
  inRange : ∃ value times, count.number? = some value ∧ Binary64.whole? value = some times ∧
    1 ≤ times ∧ times ≤ 1000

/-- What stands before the bracket of a repetition that is refused, and the one complaint about it.
The block has the body, and is closed or not. -/
inductive Refused (keywords : Keywords) (body : List Token) :
    Bool → List Token → Diagnostic → Prop
  /-- There is no count. -/
  | uncounted {closed : Bool} {word : Token} (named : keywords.kind? word = some .repetition) :
    Refused keywords body closed [word] ⟨.needsCount, false, word.knownLine⟩
  /-- A word that is neither a keyword nor a number stands in its place. -/
  | miscounted {closed : Bool} {word other : Token}
    (named : keywords.kind? word = some .repetition) (isWord : other.shape = .word)
    (unknown : keywords.has other = false) (unnumbered : other.number? = none) :
    Refused keywords body closed [word, other] ⟨.needsCount, false, word.knownLine⟩
  /-- The count is a number, but not a whole one in range. -/
  | outOfRange {closed : Bool} {word count : Token} {value : Float}
    (named : keywords.kind? word = some .repetition) (numeric : count.number? = some value)
    (outside : ∀ times, Binary64.whole? value = some times → ¬ (1 ≤ times ∧ times ≤ 1000)) :
    Refused keywords body closed [word, count] ⟨.countOutOfRange, false, word.knownLine⟩
  /-- The count is good, but the block is not closed. -/
  | unclosed {word count : Token} (counted : Counted keywords word count) :
    Refused keywords body false [word, count] ⟨.missingClose, false, word.knownLine⟩
  /-- The count is good, but nothing stands in the block. -/
  | empty {word count : Token} (counted : Counted keywords word count) (nothing : body = []) :
    Refused keywords body true [word, count] ⟨.emptyBody, false, word.knownLine⟩
  /-- The count is good, but there are complaints about the body. -/
  | broken {word count : Token} {first : Diagnostic} {others : List Diagnostic}
    (counted : Counted keywords word count)
    (complaints : (readTokens keywords body).errors = first :: others) :
    Refused keywords body true [word, count] first.fromInside

section Repetitions

variable {keywords : Keywords} {head body tail after : List Token} {closed : Bool}
  {opening : Token} {d : Diagnostic}

private theorem Refused.named (refused : Refused keywords body closed head d) :
    ∃ word more, head = word :: more ∧ keywords.kind? word = some .repetition := by
  cases refused with
  | uncounted named | miscounted named | outOfRange named => exact ⟨_, _, rfl, named⟩
  | unclosed counted | empty counted | broken counted => exact ⟨_, _, rfl, counted.named⟩

private theorem wholeCount?_eq_none {value : Float}
    (outside : ∀ times, Binary64.whole? value = some times → ¬ (1 ≤ times ∧ times ≤ 1000)) :
    wholeCount? value = none := by
  cases counted : wholeCount? value with
  | none => rfl
  | some times =>
    obtain ⟨whole, range⟩ := wholeCount?_eq_some.mp counted
    exact absurd range (outside times whole)

private theorem number?_of_opening (opens : opening.shape = .opening) : opening.number? = none := by
  simp [Token.number?, opens]

/-- The step at a refused repetition gives the one complaint and leaves what follows the block. -/
theorem Refused.firstStep (refused : Refused keywords body closed head d)
    (opens : opening.shape = .opening) (cut : takeBlock 0 tail = (body, closed, after))
    (position : Nat) :
    (firstStep keywords ⟨position, head ++ opening :: tail⟩).outcome = .refusal d ∧
      (firstStep keywords ⟨position, head ++ opening :: tail⟩).next.rest = after := by
  have block := fun position => block_of_cut opening position cut
  cases refused with
  | uncounted named =>
    rw [firstStep_repetition named]
    simp [stepRepeat, Step.refuse, TokenStream.current, TokenStream.advance,
      TokenStream.skipArgument, TokenStream.skipBlock, number?_of_opening opens, opens, block]
  | miscounted named isWord unknown unnumbered =>
    rw [firstStep_repetition named]
    simp [stepRepeat, Step.refuse, TokenStream.current, TokenStream.advance,
      TokenStream.skipArgument, TokenStream.skipBlock, unnumbered, isWord, unknown, opens, block]
  | outOfRange named numeric outside =>
    rw [firstStep_repetition named]
    simp [stepRepeat, Step.refuse, TokenStream.current, TokenStream.advance,
      TokenStream.skipBlock, numeric, wholeCount?_eq_none outside, opens, block]
  | unclosed counted =>
    obtain ⟨value, times, numeric, whole, range⟩ := counted.inRange
    rw [firstStep_repetition counted.named]
    simp [stepRepeat, Step.refuse, TokenStream.current, TokenStream.advance, numeric,
      wholeCount?_eq_some.mpr ⟨whole, range⟩, opens, block]
  | empty counted nothing =>
    obtain ⟨value, times, numeric, whole, range⟩ := counted.inRange
    rw [firstStep_repetition counted.named]
    simp [stepRepeat, Step.refuse, TokenStream.current, TokenStream.advance, numeric,
      wholeCount?_eq_some.mpr ⟨whole, range⟩, opens, block, nothing]
  | @broken word count first others counted complaints =>
    obtain ⟨value, times, numeric, whole, range⟩ := counted.inRange
    have filled : body ≠ [] := by
      rintro rfl
      rw [readTokens_nil] at complaints
      cases complaints
    have inner : diagnosticsOf (readSteps keywords (.ofList body)) = first :: others := complaints
    rw [firstStep_repetition counted.named]
    simp [stepRepeat, TokenStream.current, TokenStream.advance, numeric,
      wholeCount?_eq_some.mpr ⟨whole, range⟩, opens, block, filled, inner]

/-- Reading goes on after the block of a refused repetition. -/
theorem Refused.continues (refused : Refused keywords body closed head d)
    (opens : opening.shape = .opening) (cut : takeBlock 0 tail = (body, closed, after))
    {s : TokenStream} (spelled : s.rest = head ++ opening :: tail) :
    ∃ next, next.rest = after ∧ Continues keywords s [] [d] next := by
  obtain ⟨position, tokens⟩ := s
  cases spelled
  obtain ⟨word, more, front, named⟩ := refused.named
  have unended : (TokenStream.mk position (head ++ opening :: tail)).atEnd = false := by
    simp [TokenStream.atEnd, TokenStream.current, front, word_of_kind named]
  obtain ⟨given, leaves⟩ := refused.firstStep opens cut position
  exact ⟨_, leaves, .refusal unended given⟩

/-- A refused repetition in front of other tokens adds its complaint to what they are read to. -/
theorem Refused.readTokens {closing : Token} (refused : Refused keywords body true head d)
    (opens : opening.shape = .opening) (closes : closing.shape = .closing)
    (passes : PassedOver body) (after : List Token) :
    readTokens keywords (head ++ opening :: (body ++ closing :: after)) =
      ⟨(readTokens keywords after).commands, d :: (readTokens keywords after).errors⟩ := by
  have cut := takeBlock_passedOver closes passes after
  have spelled : (TokenStream.ofList (head ++ opening :: (body ++ closing :: after))).rest =
      head ++ opening :: (body ++ closing :: after) := rfl
  obtain ⟨next, rfl, continues⟩ := refused.continues opens cut spelled
  exact continues.readTokens

/-- A program without a mistake in front of a refused repetition is read as it is. -/
theorem Refused.continues_after {before : List Token}
    (refused : Refused keywords body closed head d) (opens : opening.shape = .opening)
    (cut : takeBlock 0 tail = (body, closed, after))
    (unended : ∀ t ∈ before, t.shape ≠ .ending)
    (clean : (TurtleScript.readTokens keywords before).errors = []) :
    ∃ next, next.rest = after ∧
      Continues keywords (.ofList (before ++ head ++ opening :: tail))
        (TurtleScript.readTokens keywords before).commands [d] next := by
  obtain ⟨phrases, derived⟩ := derives_of_clean unended clean
  have spelled : (TokenStream.ofList (before ++ head ++ opening :: tail)).rest =
      Phrase.tokensAll phrases ++ (head ++ opening :: tail) := by
    rw [derived.spelled, ← List.append_assoc]
    rfl
  obtain ⟨middle, there, first⟩ := continues_phrases derived.fits spelled
  obtain ⟨next, leaves, second⟩ := refused.continues opens cut there
  have both := first.trans second
  rw [List.append_nil] at both
  rw [derived.readTokens]
  exact ⟨next, leaves, both⟩

end Repetitions

/-- A reader that has no tokens left has passed all of them. -/
theorem readAll_position (keywords : Keywords) {tokens : List Token}
    (nothing : (Reader.ofTokens keywords tokens).readAll.2.stream.rest = []) :
    (Reader.ofTokens keywords tokens).readAll.2.stream = ⟨tokens.length, []⟩ := by
  have within : (Reader.ofTokens keywords tokens).Within keywords tokens := ⟨rfl, .refl _⟩
  obtain ⟨calls, loops⟩ := Reader.loops_readAll (.ofTokens keywords tokens)
  obtain ⟨passed, split, position, -⟩ := (loops.calls_within within).2.passes
  generalize (Reader.ofTokens keywords tokens).readAll.2.stream = final at *
  obtain ⟨place, rest⟩ := final
  have whole : tokens = passed := by
    rw [nothing, List.append_nil] at split
    exact split
  cases nothing
  simp only [TokenStream.ofList, Nat.zero_add] at position
  rw [position, whole]

/-! ## Recovery -/

/-- After a program without a mistake stands a repetition that is refused. If its block is closed
after a balanced body, then the whole is read to the commands before it and after it, with one
complaint about it and then the complaints about what follows; nothing inside the block counts. If
no bracket closes the block, then everything is read up to the end, and the commands before the
repetition and the one complaint about it are all there is. -/
theorem recovery_is_local {keywords : Keywords} {before head : List Token} {opening : Token}
    {d : Diagnostic} (unended : ∀ t ∈ before, t.shape ≠ .ending)
    (clean : (readTokens keywords before).errors = []) (opens : opening.shape = .opening) :
    (∀ (body after : List Token) (closing : Token), (∀ t ∈ body, t.shape ≠ .ending) →
      Balanced body → closing.shape = .closing → Refused keywords body true head d →
      readTokens keywords (before ++ head ++ opening :: (body ++ closing :: after)) =
        ⟨(readTokens keywords before).commands ++ (readTokens keywords after).commands,
          d :: (readTokens keywords after).errors⟩) ∧
    ∀ rest : List Token, (∀ t ∈ rest, t.shape ≠ .ending) → NoneUnmatched rest →
      Refused keywords rest false head d →
      let tokens := before ++ head ++ opening :: rest
      readTokens keywords tokens = ⟨(readTokens keywords before).commands, [d]⟩ ∧
        (Reader.ofTokens keywords tokens).readAll.2.stream = ⟨tokens.length, []⟩ := by
  refine ⟨?_, ?_⟩
  · intro body after closing unendedBody balanced closes refused
    have cut := takeBlock_passedOver closes (balanced.passedOver unendedBody) after
    obtain ⟨next, rfl, continues⟩ := refused.continues_after opens cut unended clean
    exact continues.readTokens
  · intro rest unendedRest matched refused tokens
    have cut := matched.takeBlock unendedRest
    obtain ⟨next, nothing, continues⟩ := refused.continues_after opens cut unended clean
    refine ⟨?_, readAll_position keywords ?_⟩
    · rw [continues.readTokens, nothing, readTokens_nil, List.append_nil]
      rfl
    · have stopped : readSteps keywords next = [] := by
        rw [readSteps, dif_pos (by simp [TokenStream.atEnd, TokenStream.current, nothing,
          Token.ending])]
      have left := continues.left
      rw [stopped] at left
      exact (congrArg TokenStream.rest left).trans nothing

private def upWord : Token := ⟨.word, "PU", 1, 1⟩

private def twiceHead : List Token := [⟨.word, "REPEAT", 1, 4⟩, ⟨.word, "2", 1, 11⟩]

private def blockStart : Token := ⟨.opening, "[", 1, 13⟩

private def jumpBody : List Token :=
  [⟨.word, "JUMP", 2, 1⟩, ⟨.opening, "[", 2, 6⟩, ⟨.closing, "]", 2, 8⟩]

private def blockEnd : Token := ⟨.closing, "]", 3, 1⟩

private def downWord : Token := ⟨.word, "PD", 3, 3⟩

private theorem twiceHead_counted :
    Counted .standard ⟨.word, "REPEAT", 1, 4⟩ ⟨.word, "2", 1, 11⟩ :=
  ⟨rfl, 2.0, 2, by decide +kernel, by decide +kernel, by decide, by decide⟩

/-- A repetition around an unknown word and a pair of brackets, between two commands, and the same
tokens without the bracket that closes the repetition. -/
theorem recovery_is_local_around_jump :
    (readTokens .standard [upWord]).errors = [] ∧ Balanced jumpBody ∧
    NoneUnmatched (jumpBody ++ [downWord]) ∧
    readTokens .standard
        ([upWord] ++ twiceHead ++ blockStart :: (jumpBody ++ blockEnd :: [downWord])) =
      ⟨(readTokens .standard [upWord]).commands ++ (readTokens .standard [downWord]).commands,
        [⟨.unknownCommand "JUMP", true, some 2⟩]⟩ ∧
    readTokens .standard ([upWord] ++ twiceHead ++ blockStart :: (jumpBody ++ [downWord])) =
      ⟨(readTokens .standard [upWord]).commands, [⟨.missingClose, false, some 1⟩]⟩ := by
  have clean : (readTokens .standard [upWord]).errors = [] := by decide +kernel
  have cleanAfter : (readTokens .standard [downWord]).errors = [] := by decide +kernel
  have complaints : (readTokens .standard jumpBody).errors =
      [⟨.unknownCommand "JUMP", false, some 2⟩, ⟨.unknownCommand "[", false, some 2⟩,
        ⟨.unmatchedClose, false, some 2⟩] := by decide +kernel
  have balanced : Balanced jumpBody := by decide
  have matched : NoneUnmatched (jumpBody ++ [downWord]) := by decide
  have opens : blockStart.shape = .opening := rfl
  have closedBlock := (recovery_is_local (by decide) clean opens).1 jumpBody [downWord] blockEnd
    (by decide) balanced rfl (.broken twiceHead_counted complaints)
  have openBlock := (recovery_is_local (by decide) clean opens).2 (jumpBody ++ [downWord])
    (by decide) matched (.unclosed twiceHead_counted)
  rw [cleanAfter] at closedBlock
  exact ⟨clean, balanced, matched, closedBlock, openBlock.1⟩

end TurtleScript
