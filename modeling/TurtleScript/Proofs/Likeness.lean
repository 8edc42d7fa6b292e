import Mathlib.Data.List.Forall2
import TurtleScript.Proofs.Casing
import TurtleScript.Proofs.Grammar
import TurtleScript.Proofs.Lexing

/-!
Reading depends on what tokens mean and not on where they stand. Tokens that are of the same shape,
name the same command and have the same value are read alike, in bodies, in recovery and in faults
as well as in programs without a mistake; the commands move with their words, at every depth, and
the complaints with the words that they are about. So the bare texts of the tokens are enough to
read a program, and only the places are lost.
-/
namespace TurtleScript

open Text

/-! ## Moving what was read -/

/-- What becomes of the places of tokens, and of the lines that complaints name. -/
structure Relocation where
  place : Place → Place
  line : Option Int → Option Int

namespace Command

mutual

/-- A command at another place, with its whole body. -/
def relocate (move : Place → Place) : Command → Command
  | ⟨kind, value, body, line, column⟩ =>
    ⟨kind, value, relocateAll move body, (move ⟨line, column⟩).line, (move ⟨line, column⟩).column⟩

def relocateAll (move : Place → Place) : List Command → List Command
  | [] => []
  | c :: rest => c.relocate move :: relocateAll move rest

end

end Command

def Diagnostic.relocate (change : Relocation) (d : Diagnostic) : Diagnostic :=
  { d with line := change.line d.line }

def Outcome.relocate (change : Relocation) : Outcome → Outcome
  | .command c => .command (c.relocate change.place)
  | .refusal d => .refusal (d.relocate change)
  | .fault word kind line => .fault word kind (change.line line)

/-- A program that was read elsewhere. -/
def Program.relocate (change : Relocation) (p : Program) : Program :=
  ⟨Command.relocateAll change.place p.commands, p.errors.map (·.relocate change)⟩

/-! ## Tokens -/

/-- Two tokens play the same part in a program. -/
structure Token.Means (keywords : Keywords) (t other : Token) : Prop where
  shape : other.shape = t.shape
  kind : keywords.kind? other = keywords.kind? t
  number : other.number? = t.number?

/-- The second token is the first one at another place. Its text may differ where no complaint
quotes it, and that is where it names a command. -/
structure Token.Alike (keywords : Keywords) (change : Relocation) (t other : Token) : Prop
    extends t.Means keywords other where
  text : other.text = t.text ∨ ∃ kind, keywords.kind? t = some kind ∧ kind.isCanonical = true
  place : ⟨other.line, other.column⟩ = change.place ⟨t.line, t.column⟩
  line : other.knownLine = change.line t.knownLine

abbrev AlikeAll (keywords : Keywords) (change : Relocation) : List Token → List Token → Prop :=
  List.Forall₂ (Token.Alike keywords change)

variable {keywords : Keywords} {change : Relocation}

section Streams

variable {s other : TokenStream}

theorem current_means (alike : AlikeAll keywords change s.rest other.rest) :
    s.current.Means keywords other.current := by
  obtain ⟨position, rest⟩ := s
  obtain ⟨position', rest'⟩ := other
  cases alike with
  | nil => exact ⟨rfl, rfl, rfl⟩
  | cons first _ => exact first.toMeans

theorem current_alike (alike : AlikeAll keywords change s.rest other.rest)
    (more : s.atEnd = false) : s.current.Alike keywords change other.current := by
  obtain ⟨position, rest⟩ := s
  obtain ⟨position', rest'⟩ := other
  cases alike with
  | nil => cases more
  | cons first _ => exact first

theorem advance_alike (alike : AlikeAll keywords change s.rest other.rest) :
    AlikeAll keywords change s.advance.rest other.advance.rest := by
  obtain ⟨position, rest⟩ := s
  obtain ⟨position', rest'⟩ := other
  cases alike with
  | nil => exact .nil
  | cons _ rest => exact rest

theorem takeBlock_alike {tokens others : List Token}
    (alike : AlikeAll keywords change tokens others) (depth : Nat) :
    AlikeAll keywords change (takeBlock depth tokens).1 (takeBlock depth others).1 ∧
      (takeBlock depth others).2.1 = (takeBlock depth tokens).2.1 ∧
      AlikeAll keywords change (takeBlock depth tokens).2.2 (takeBlock depth others).2.2 := by
  induction alike generalizing depth with
  | nil => exact ⟨.nil, rfl, .nil⟩
  | @cons t t' rest rest' first more ih =>
    have inside : ∀ depth, AlikeAll keywords change (t :: (takeBlock depth rest).1)
          (t' :: (takeBlock depth rest').1) ∧ _ := fun depth =>
      ⟨.cons first (ih depth).1, (ih depth).2⟩
    simp only [takeBlock, first.shape]
    cases shape : t.shape with
    | ending => exact ⟨.nil, rfl, .cons first more⟩
    | closing =>
      cases depth with
      | zero => exact ⟨.nil, rfl, more⟩
      | succ depth => exact inside depth
    | opening => exact inside (depth + 1)
    | word | other => exact inside depth

theorem block_alike (alike : AlikeAll keywords change s.rest other.rest) :
    AlikeAll keywords change s.block.body other.block.body ∧
      other.block.closed = s.block.closed ∧
      AlikeAll keywords change s.block.next.rest other.block.next.rest :=
  takeBlock_alike (advance_alike alike) 0

theorem skipArgument_alike (alike : AlikeAll keywords change s.rest other.rest) :
    AlikeAll keywords change (s.skipArgument keywords).rest
      (other.skipArgument keywords).rest := by
  have means := current_means alike
  have known : keywords.has other.current = keywords.has s.current := by
    have kinds := means.kind
    simp only [Keywords.kind?, means.shape] at kinds
    simp only [Keywords.has, means.shape]
    split at kinds
    · rw [kinds]
    · simp [*]
  simp only [TokenStream.skipArgument, means.shape, known]
  split
  · exact advance_alike alike
  · exact alike

theorem skipBlock_alike (alike : AlikeAll keywords change s.rest other.rest) :
    AlikeAll keywords change s.skipBlock.rest other.skipBlock.rest := by
  simp only [TokenStream.skipBlock, (current_means alike).shape]
  split
  · exact (block_alike alike).2.2
  · exact alike

end Streams

/-! ## Steps -/

/-- The second step gives what the first one gives, elsewhere, and leaves tokens that are alike. -/
structure Step.Alike (keywords : Keywords) (change : Relocation) (step other : Step) : Prop where
  outcome : other.outcome = step.outcome.relocate change
  next : AlikeAll keywords change step.next.rest other.next.rest

abbrev OutcomesAlike (change : Relocation) : List Step → List Step → Prop :=
  List.Forall₂ fun step other => other.outcome = step.outcome.relocate change

theorem OutcomesAlike.commandsOf {steps others : List Step}
    (alike : OutcomesAlike change steps others) :
    commandsOf others = Command.relocateAll change.place (commandsOf steps) := by
  induction alike with
  | nil => rfl
  | @cons step other steps others first _ ih =>
    simp only [TurtleScript.commandsOf] at ih ⊢
    rw [List.filterMap_cons, List.filterMap_cons, first, ih]
    cases step.outcome <;> rfl

theorem OutcomesAlike.diagnosticsOf {steps others : List Step}
    (alike : OutcomesAlike change steps others) :
    diagnosticsOf others = (diagnosticsOf steps).map (·.relocate change) := by
  induction alike with
  | nil => rfl
  | @cons step other steps others first _ ih =>
    simp only [TurtleScript.diagnosticsOf] at ih ⊢
    rw [List.filterMap_cons, List.filterMap_cons, first, ih]
    cases step.outcome <;> rfl

section Steps

variable {s other : TokenStream} (alike : AlikeAll keywords change s.rest other.rest)
  (more : s.atEnd = false)

include alike more in
private theorem refuse_alike (cause : Cause) {next next' : TokenStream}
    (left : AlikeAll keywords change next.rest next'.rest) :
    (Step.refuse cause s.current next).Alike keywords change
      (.refuse cause other.current next') := by
  refine ⟨?_, left⟩
  simp only [Step.refuse, Outcome.relocate, Diagnostic.relocate, (current_alike alike more).line]

include alike more in
/-- A command that is read at the current word is at the place of that word. -/
private theorem command_alike (kind : Kind) (value : Option Number) {body body' : List Command}
    (inside : body' = Command.relocateAll change.place body) :
    Outcome.command ⟨kind, value, body', other.current.line, other.current.column⟩ =
      (Outcome.command ⟨kind, value, body, s.current.line, s.current.column⟩).relocate change := by
  have place := (current_alike alike more).place
  simp only [Outcome.relocate, Command.relocate, inside, ← place]

include alike more in
private theorem stepValue_alike (kind : Kind) :
    (stepValue keywords kind s).Alike keywords change (stepValue keywords kind other) := by
  have argument := advance_alike alike
  simp only [stepValue, (current_means argument).number]
  cases s.advance.current.number? with
  | none => exact refuse_alike alike more _ (skipArgument_alike argument)
  | some value => exact ⟨command_alike alike more _ _ rfl, advance_alike argument⟩

include alike more in
private theorem stepRepeat_alike
    (bodies : ∀ {body body' : List Token}, body.length < s.rest.length →
      AlikeAll keywords change body body' →
      OutcomesAlike change (readSteps keywords (.ofList body))
        (readSteps keywords (.ofList body'))) :
    (stepRepeat keywords s fun body _ => readSteps keywords (.ofList body)).Alike keywords change
      (stepRepeat keywords other fun body _ => readSteps keywords (.ofList body)) := by
  have counted := advance_alike alike
  have opened := advance_alike counted
  obtain ⟨inside, closed, after⟩ := block_alike opened
  simp only [stepRepeat, (current_means counted).number]
  cases s.advance.current.number? with
  | none => exact refuse_alike alike more _ (skipBlock_alike (skipArgument_alike counted))
  | some value =>
    dsimp only
    cases wholeCount? value with
    | none => exact refuse_alike alike more _ (skipBlock_alike opened)
    | some times =>
      have filled : other.advance.advance.block.body.isEmpty =
          s.advance.advance.block.body.isEmpty := by
        rw [Bool.eq_iff_iff, List.isEmpty_iff_length_eq_zero, List.isEmpty_iff_length_eq_zero,
          inside.length_eq]
      simp only [(current_means opened).shape, closed, filled]
      by_cases opens : s.advance.advance.current.shape = .opening
      · have shorter : s.advance.advance.block.body.length < s.rest.length :=
          Nat.lt_of_lt_of_le (block_body_lt _ opens) (advance_twice_le s)
        have read := bodies shorter inside
        rw [dif_pos opens, dif_pos opens]
        split
        · exact refuse_alike alike more _ after
        · split
          · exact refuse_alike alike more _ after
          · refine ⟨?_, after⟩
            dsimp only
            rw [read.diagnosticsOf, read.commandsOf]
            cases diagnosticsOf (readSteps keywords (.ofList s.advance.advance.block.body)) with
            | nil => exact command_alike alike more _ _ rfl
            | cons first others => rfl
      · rw [dif_neg opens, dif_neg opens]
        exact refuse_alike alike more _ opened

include alike more in
theorem firstStep_alike
    (bodies : ∀ {body body' : List Token}, body.length < s.rest.length →
      AlikeAll keywords change body body' →
      OutcomesAlike change (readSteps keywords (.ofList body))
        (readSteps keywords (.ofList body'))) :
    (firstStep keywords s).Alike keywords change (firstStep keywords other) := by
  have first := current_alike alike more
  simp only [firstStep, stepCommand, first.shape, first.kind]
  split
  · exact refuse_alike alike more _ (advance_alike alike)
  · cases named : keywords.kind? s.current with
    | none =>
      have quoted : other.current.text = s.current.text := by
        rcases first.text with same | ⟨kind, known, -⟩
        · exact same
        · rw [named] at known
          cases known
      dsimp only
      rw [quoted]
      exact refuse_alike alike more _ (advance_alike alike)
    | some kind =>
      dsimp only
      split
      · exact stepValue_alike alike more kind
      · rename_i notValued
        split
        · exact ⟨command_alike alike more _ _ rfl, advance_alike alike⟩
        · rename_i notAlone
          split
          · exact stepRepeat_alike alike more bodies
          · rename_i notRepeat
            have quoted : other.current.text = s.current.text := by
              rcases first.text with same | ⟨known, found, canonical⟩
              · exact same
              · cases named.symm.trans found
                cases kind <;>
                  simp [Kind.takesNumber, Kind.standsAlone, Kind.isCanonical] at *
            rw [quoted, first.line]
            exact ⟨rfl, alike⟩

end Steps

/-! ## Programs -/

/-- Tokens that are alike are read alike. The induction is on the number of tokens: a body is read
by itself, and what follows a command is shorter than what it stands in front of. -/
theorem readSteps_alike (s other : TokenStream)
    (alike : AlikeAll keywords change s.rest other.rest) :
    OutcomesAlike change (readSteps keywords s) (readSteps keywords other) := by
  by_cases ended : s.atEnd = true
  · have endedToo : other.atEnd = true := by
      simpa only [TokenStream.atEnd, (current_means alike).shape] using ended
    rw [readSteps, dif_pos ended, readSteps, dif_pos endedToo]
    exact .nil
  · have more : s.atEnd = false := Bool.eq_false_iff.mpr ended
    have moreToo : other.atEnd = false := by
      simpa only [TokenStream.atEnd, (current_means alike).shape] using more
    have first := firstStep_alike alike more fun {body body'} shorter inside =>
      readSteps_alike (.ofList body) (.ofList body') inside
    have stays : (firstStep keywords other).stays = (firstStep keywords s).stays := by
      unfold Step.stays
      rw [first.outcome]
      cases (firstStep keywords s).outcome <;> rfl
    rw [readSteps_before_end keywords more, readSteps_before_end keywords moreToo, stays]
    refine .cons first.outcome ?_
    split
    · exact .nil
    · rename_i moves
      have shorter : (firstStep keywords s).next.rest.length < s.rest.length :=
        stepCommand_next_lt keywords s _ more (Bool.eq_false_iff.mpr moves)
      exact readSteps_alike _ _ first.next
termination_by s.rest.length

theorem readTokens_alike {tokens others : List Token}
    (alike : AlikeAll keywords change tokens others) :
    readTokens keywords others = (readTokens keywords tokens).relocate change := by
  have read := readSteps_alike (.ofList tokens) (.ofList others) alike
  simp only [readTokens, Program.relocate, read.commandsOf, read.diagnosticsOf]

/-! ## Staying in place -/

/-- Nothing moves. -/
def Relocation.still : Relocation := ⟨id, id⟩

namespace Command

mutual

theorem relocate_id : (c : Command) → c.relocate id = c
  | ⟨_, _, body, _, _⟩ => by rw [relocate, relocateAll_id body]; rfl

theorem relocateAll_id : (commands : List Command) → relocateAll id commands = commands
  | [] => rfl
  | c :: rest => by rw [relocateAll, relocate_id c, relocateAll_id rest]

end

end Command

theorem relocate_still (p : Program) : p.relocate .still = p := by
  have unmoved : (Diagnostic.relocate .still) = id := rfl
  simp only [Program.relocate, unmoved, List.map_id]
  rw [show Relocation.still.place = id from rfl, Command.relocateAll_id]

theorem alike_self (keywords : Keywords) (t : Token) : t.Alike keywords .still t :=
  ⟨⟨rfl, rfl, rfl⟩, .inl rfl, rfl, rfl⟩

/-! ## Bare texts -/

/-- All places are lost. -/
def Relocation.nowhere : Relocation := ⟨fun _ => ⟨0, 0⟩, fun _ => none⟩

/-- The shape of a token can be told from its text: no word becomes a bracket in upper case. -/
theorem Spelling.ofText {rest word : List Char} {shape : Shape}
    (spelling : Spelling rest word shape) :
    Shape.ofText (String.ofList (upperChars word)) = shape := by
  cases spelling with
  | opening | closing => decide
  | word _ unbroken _ =>
    have unlike : ∀ c, endsWord c = true → String.ofList (upperChars word) ≠ String.ofList [c] := by
      intro c ends same
      have one : upperChars word = [c] := String.ofList_injective same
      have whole := upperChars_unbroken_iff.mpr unbroken c (by simp [one])
      rw [ends] at whole
      cases whole
    rw [Shape.ofText, if_neg (unlike '[' (by decide)), if_neg (unlike ']' (by decide))]

theorem ofText_of_mem_tokens {text : String} {t : Token} (member : t ∈ tokens text) :
    Token.ofText t.text = ⟨t.shape, t.text, 0, 0⟩ := by
  obtain ⟨piece, spelled, rfl⟩ := spelled_of_mem_tokens member
  have settled : upper piece.token.text = piece.token.text := by rw [spelled.text, upper_upper]
  have shape : Shape.ofText piece.token.text = piece.token.shape := by
    have chars : piece.token.text = String.ofList (upperChars (piece.chars text.toList)) :=
      congrArg Token.text spelled.token_eq
    rw [chars]
    exact spelled.spelling.ofText
  simp only [Token.ofText, settled, shape]

/-- A program that is read from the texts of its tokens alone is the program that is read from its
text, but for the places: the same commands in the same tree, and the same complaints, of which none
names a line. -/
theorem readTokens_tokenTexts (keywords : Keywords) (text : String) :
    readTokens keywords ((tokenTexts text).map Token.ofText) =
      (readProgram keywords text).relocate .nowhere := by
  have alike : AlikeAll keywords .nowhere (tokens text) ((tokenTexts text).map Token.ofText) := by
    rw [tokenTexts, List.map_map]
    refine List.forall₂_map_right_iff.mpr (List.forall₂_same.mpr fun t member => ?_)
    simp only [Function.comp_apply, ofText_of_mem_tokens member]
    exact ⟨⟨rfl, rfl, rfl⟩, .inl rfl, rfl, rfl⟩
  exact readTokens_alike alike

end TurtleScript
