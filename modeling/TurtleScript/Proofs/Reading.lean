import TurtleScript.Proofs.Grammar

/-!
What reading one command can come to. The reader recovers from every mistake, and each way to
recover moves past other tokens; here they are listed once, with the tokens that are passed and with
the body that a repetition reads by itself. No step passes the end of a program, and only a keyword
for something that is no command makes a step stay where it is.
-/
namespace TurtleScript

/-! ## Passing tokens -/

/-- The second stream is the first one past some tokens, none of which is an ending. -/
def TokenStream.Passes (s next : TokenStream) : Prop :=
  ∃ passed, s.rest = passed ++ next.rest ∧ next.position = s.position + passed.length ∧
    ∀ t ∈ passed, t.shape ≠ .ending

namespace TokenStream.Passes

variable {s middle next : TokenStream}

theorem refl (s : TokenStream) : s.Passes s := ⟨[], rfl, rfl, nofun⟩

theorem trans (first : s.Passes middle) (second : middle.Passes next) : s.Passes next := by
  obtain ⟨before, rest, position, unended⟩ := first
  obtain ⟨after, rest', position', unended'⟩ := second
  refine ⟨before ++ after, ?_, ?_, ?_⟩
  · rw [rest, rest', List.append_assoc]
  · rw [position', position, List.length_append, Nat.add_assoc]
  · intro t member
    rcases List.mem_append.mp member with early | late
    · exact unended t early
    · exact unended' t late

theorem position_le (passes : s.Passes next) : s.position ≤ next.position := by
  obtain ⟨passed, -, position, -⟩ := passes
  omega

theorem sublist (passes : s.Passes next) : next.rest.Sublist s.rest := by
  obtain ⟨passed, rest, -, -⟩ := passes
  rw [rest]
  exact List.sublist_append_right passed next.rest

end TokenStream.Passes

section Streams

variable {s : TokenStream}

theorem advance_passes (more : s.current.shape ≠ .ending) : s.Passes s.advance := by
  refine ⟨[s.current], rest_eq_current_cons more, rfl, ?_⟩
  intro t member
  rw [List.mem_singleton.mp member]
  exact more

theorem skipArgument_passes (keywords : Keywords) (s : TokenStream) :
    s.Passes (s.skipArgument keywords) := by
  unfold TokenStream.skipArgument
  split
  · rename_i word
    have shape : s.current.shape = .word := by simpa using (Bool.and_eq_true_iff.mp word).1
    exact advance_passes (by simp [shape])
  · exact .refl s

/-- A block is made of its body and, if it was closed, one bracket; no ending is among them. -/
theorem takeBlock_split (depth : Nat) (tokens : List Token) :
    ∃ bracket, tokens = (takeBlock depth tokens).1 ++ bracket ++ (takeBlock depth tokens).2.2 ∧
      bracket.length = (if (takeBlock depth tokens).2.1 then 1 else 0) ∧
      ∀ t ∈ (takeBlock depth tokens).1 ++ bracket, t.shape ≠ .ending := by
  induction tokens generalizing depth with
  | nil => exact ⟨[], rfl, rfl, fun _ member => absurd member List.not_mem_nil⟩
  | cons t rest ih =>
    by_cases ending : t.shape = .ending
    · have cut : takeBlock depth (t :: rest) = ([], false, t :: rest) := by
        simp [takeBlock, ending]
      rw [cut]
      exact ⟨[], rfl, rfl, fun _ member => absurd member List.not_mem_nil⟩
    unfold takeBlock
    split
    · exact absurd ‹_› ending
    · refine ⟨[t], rfl, rfl, ?_⟩
      intro other member
      rw [List.mem_singleton.mp member]
      exact ending
    all_goals
      obtain ⟨bracket, split, length, unended⟩ := ih _
      refine ⟨bracket, congrArg (t :: ·) split, length, ?_⟩
      intro other member
      rcases List.mem_cons.mp member with rfl | later
      · exact ending
      · exact unended other later

theorem block_passes (opening : s.current.shape = .opening) : s.Passes s.block.next := by
  have opened : s.Passes s.advance := advance_passes (by simp [opening])
  refine opened.trans ?_
  obtain ⟨bracket, split, length, unended⟩ := takeBlock_split 0 s.advance.rest
  refine ⟨_, split, ?_, unended⟩
  simp only [TokenStream.block, List.length_append, length, Nat.add_assoc]

theorem skipBlock_passes (s : TokenStream) : s.Passes s.skipBlock := by
  unfold TokenStream.skipBlock
  split
  · rename_i opening
    exact block_passes opening
  · exact .refl s

theorem block_sublist (s : TokenStream) :
    (s.block.body ++ s.block.next.rest).Sublist s.advance.rest := by
  obtain ⟨bracket, split, -, -⟩ := takeBlock_split 0 s.advance.rest
  have sublist := (List.sublist_append_left (takeBlock 0 s.advance.rest).1 bracket).append
    (List.Sublist.refl (takeBlock 0 s.advance.rest).2.2)
  rwa [← split] at sublist

theorem block_body_unended (s : TokenStream) : ∀ t ∈ s.block.body, t.shape ≠ .ending := by
  obtain ⟨bracket, -, -, unended⟩ := takeBlock_split 0 s.advance.rest
  intro t member
  exact unended t (List.mem_append_left bracket member)

end Streams

/-! ## One step -/

/-- A reason of the reader's own: not a keyword for something that is no command, and a number is
missed only by a command that takes one. -/
def Cause.Expected : Cause → Prop
  | .unknownTarget _ _ => False
  | .needsNumber kind => kind.takesNumber = true
  | _ => True

/-- The reason is one that the token gives: what it is for the language, or what it names. -/
def Cause.Concerns (keywords : Keywords) (t : Token) : Cause → Prop
  | .unmatchedClose => t.shape = .closing
  | .unknownCommand text => text = t.text ∧ keywords.kind? t = none
  | .needsNumber kind => keywords.kind? t = some kind ∧ kind.takesNumber = true
  | .needsCount | .countOutOfRange | .needsOpening | .missingClose | .emptyBody =>
    keywords.kind? t = some .repetition
  | .unknownTarget word kind =>
    word = t.text ∧ keywords.kind? t = some kind ∧ kind.isCanonical = false

/-- What a step at a stream can be. Every step but the last form moves past the current token. -/
inductive Takes (keywords : Keywords) (s : TokenStream) : Step → Prop
  /-- The piece is refused, for a reason of its own. -/
  | refused {cause : Cause} {next : TokenStream}
    (expected : cause.Expected) (passes : s.advance.Passes next)
    (concerns : cause.Concerns keywords s.current) :
    Takes keywords s (.refuse cause s.current next)
  /-- A command with a number. -/
  | valued {kind : Kind} {value : Float} {next : TokenStream} (takesNumber : kind.takesNumber = true)
    (finite : value.isFinite = true) (passes : s.advance.Passes next) :
    Takes keywords s
      ⟨.command ⟨kind, some (.real value), [], s.current.line, s.current.column⟩, [], next⟩
  /-- A command without an argument. -/
  | plain {kind : Kind} (alone : kind.standsAlone = true) :
    Takes keywords s
      ⟨.command ⟨kind, none, [], s.current.line, s.current.column⟩, [], s.advance⟩
  /-- A repetition whose body is read without a complaint. -/
  | repeated {times : Int} {body : List Token} {next : TokenStream}
    (range : 1 ≤ times ∧ times ≤ 1000) (filled : body ≠ [])
    (unended : ∀ t ∈ body, t.shape ≠ .ending) (shorter : body.length < s.rest.length)
    (clean : diagnosticsOf (readSteps keywords (.ofList body)) = [])
    (passes : s.advance.Passes next) :
    Takes keywords s
      ⟨.command ⟨.repetition, some (.whole times), commandsOf (readSteps keywords (.ofList body)),
        s.current.line, s.current.column⟩, passesOf (readSteps keywords (.ofList body)), next⟩
  /-- A repetition that is refused because of the first complaint about its body. -/
  | spoilt {body : List Token} {first : Diagnostic} {others : List Diagnostic} {next : TokenStream}
    (shorter : body.length < s.rest.length)
    (complaints : diagnosticsOf (readSteps keywords (.ofList body)) = first :: others)
    (passes : s.advance.Passes next) (inside : (body ++ next.rest).Sublist s.rest) :
    Takes keywords s
      ⟨.refusal first.fromInside, passesOf (readSteps keywords (.ofList body)), next⟩
  /-- A keyword for something that is no command. -/
  | faulted {kind : Kind} (named : keywords.kind? s.current = some kind)
    (unknown : kind.isCanonical = false) :
    Takes keywords s ⟨.fault s.current.text kind s.current.knownLine, [], s⟩

section Steps

variable {keywords : Keywords} {s : TokenStream}

private theorem number?_finite {t : Token} {value : Float} (numeric : t.number? = some value) :
    value.isFinite = true := by
  unfold Token.number? wordNumber? at numeric
  split at numeric
  · split at numeric
    · cases numeric
    · rename_i literal _
      by_cases finite : literal.toFloat.isFinite = true
      · simp only [finite, if_true, Option.some.injEq] at numeric
        rw [← numeric]
        exact finite
      · simp [finite] at numeric
  · cases numeric

private theorem stepValue_takes {kind : Kind} (named : keywords.kind? s.current = some kind)
    (takesNumber : kind.takesNumber = true) :
    Takes keywords s (stepValue keywords kind s) := by
  cases numeric : s.advance.current.number? with
  | none =>
    simp only [stepValue, numeric]
    exact .refused takesNumber (skipArgument_passes keywords s.advance) ⟨named, takesNumber⟩
  | some value =>
    have passes : s.advance.Passes s.advance.advance :=
      advance_passes (by simp [word_of_number numeric])
    simp only [stepValue, numeric]
    exact .valued takesNumber (number?_finite numeric) passes

private theorem stepRepeat_takes (named : keywords.kind? s.current = some .repetition) :
    Takes keywords s
      (stepRepeat keywords s fun body _ => readSteps keywords (.ofList body)) := by
  cases numeric : s.advance.current.number? with
  | none =>
    simp only [stepRepeat, numeric]
    exact .refused trivial ((skipArgument_passes keywords s.advance).trans (skipBlock_passes _))
      named
  | some value =>
    have counted : s.advance.Passes s.advance.advance :=
      advance_passes (by simp [word_of_number numeric])
    cases whole : wholeCount? value with
    | none =>
      simp only [stepRepeat, numeric, whole]
      exact .refused trivial (counted.trans (skipBlock_passes _)) named
    | some times =>
      have range := (wholeCount?_eq_some.mp whole).2
      simp only [stepRepeat, numeric, whole]
      split
      · rename_i opening
        have passes := counted.trans (block_passes opening)
        have shorter := Nat.lt_of_lt_of_le (block_body_lt _ opening) (advance_twice_le s)
        split
        · exact .refused trivial passes named
        · split
          · exact .refused trivial passes named
          · rename_i filled
            cases complaints :
                diagnosticsOf (readSteps keywords (.ofList s.advance.advance.block.body)) with
            | nil =>
              exact .repeated range (by simpa using filled) (block_body_unended _) shorter
                complaints passes
            | cons first others =>
              have tail : s.advance.advance.advance.rest.Sublist s.rest :=
                ((List.tail_sublist _).trans (List.tail_sublist _)).trans (List.tail_sublist _)
              exact .spoilt shorter complaints passes ((block_sublist _).trans tail)
      · exact .refused trivial counted named

private theorem canonical_of_uses {kind : Kind} (notValued : kind.takesNumber ≠ true)
    (notAlone : kind.standsAlone ≠ true) (notRepeat : kind ≠ .repetition) :
    kind.isCanonical = false := by
  cases kind with
  | other name => rfl
  | repetition => exact absurd rfl notRepeat
  | forward | back | left | right | color => exact absurd rfl notValued
  | penUp | penDown | clear => exact absurd rfl notAlone

/-- Every step is one of the forms. -/
theorem firstStep_takes (keywords : Keywords) (s : TokenStream) :
    Takes keywords s (firstStep keywords s) := by
  by_cases closing : s.current.shape = .closing
  · have refused : firstStep keywords s = .refuse .unmatchedClose s.current s.advance := by
      simp [firstStep, stepCommand, closing]
    rw [refused]
    exact .refused trivial (.refl _) closing
  cases named : keywords.kind? s.current with
  | none =>
    have refused :
        firstStep keywords s = .refuse (.unknownCommand s.current.text) s.current s.advance := by
      simp [firstStep, stepCommand, closing, named]
    rw [refused]
    exact .refused trivial (.refl _) ⟨rfl, named⟩
  | some kind =>
    by_cases valued : kind.takesNumber = true
    · rw [firstStep_valued named valued]
      exact stepValue_takes named valued
    by_cases alone : kind.standsAlone = true
    · rw [firstStep_alone named alone]
      exact .plain alone
    by_cases repetition : kind = .repetition
    · rw [repetition] at named
      rw [firstStep_repetition named]
      exact stepRepeat_takes named
    · have stays :
          firstStep keywords s = ⟨.fault s.current.text kind s.current.knownLine, [], s⟩ := by
        simp [firstStep, stepCommand, closing, named, valued, alone, repetition]
      rw [stays]
      exact .faulted named (canonical_of_uses valued alone repetition)

end Steps

/-! ## All steps -/

theorem commandsOf_cons (step : Step) (steps : List Step) :
    commandsOf (step :: steps) = step.outcome.command?.toList ++ commandsOf steps := by
  cases step with
  | mk outcome passes next => cases outcome <;> rfl

theorem diagnosticsOf_cons (step : Step) (steps : List Step) :
    diagnosticsOf (step :: steps) = step.outcome.diagnostic?.toList ++ diagnosticsOf steps := by
  cases step with
  | mk outcome passes next => cases outcome <;> rfl

theorem leftBy_cons (s : TokenStream) (step : Step) (steps : List Step) :
    leftBy s (step :: steps) = leftBy step.next steps := by
  cases steps with
  | nil => rfl
  | cons second others => simp [leftBy, List.getLast?_cons]

/-- What holds of every step once it holds of the steps of its body holds of all steps of a
reading. The induction is on the number of tokens: a body is shorter than what it is cut from, and
so is what a step leaves. -/
theorem readSteps_all (keywords : Keywords) (holds : Step → Prop)
    (first : ∀ s : TokenStream, s.atEnd = false →
      (∀ body : List Token, body.length < s.rest.length →
        ∀ step ∈ readSteps keywords (.ofList body), holds step) → holds (firstStep keywords s))
    (s : TokenStream) : ∀ step ∈ readSteps keywords s, holds step := by
  induction size : s.rest.length using Nat.strongRecOn generalizing s with
  | ind size ih =>
    subst size
    cases ended : s.atEnd with
    | true =>
      rw [readSteps, dif_pos ended]
      exact fun _ member => absurd member List.not_mem_nil
    | false =>
      rw [readSteps_before_end keywords ended]
      intro step member
      rcases List.mem_cons.mp member with rfl | later
      · exact first s ended fun body shorter => ih _ shorter (.ofList body) rfl
      · cases stays : (firstStep keywords s).stays with
        | true => simp [stays] at later
        | false =>
          rw [stays] at later
          exact ih _ (stepCommand_next_lt keywords s _ ended stays) _ rfl step later

end TurtleScript
