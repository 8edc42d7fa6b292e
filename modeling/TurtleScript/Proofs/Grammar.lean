import TurtleScript.Language.Parser

/-!
The grammar of the language, and the reader against it. A program is a list of phrases; a phrase is
a word with a number, a word alone, or a repetition with a bracketed body of at least one phrase.
The grammar knows nothing of depth counters, recovery or separate readings of bodies: it only says
which tokens stand next to each other. The reader accepts exactly the token lists that have a
derivation, the derivation is unique, and the commands that are read are its commands.
-/
namespace TurtleScript

/-! ## Derivations -/

/-- The derivation of one command, with the tokens it spells and what they mean. -/
inductive Phrase where
  /-- A word for a command with a number, and the number. -/
  | valued (word number : Token) (kind : Kind) (value : Float)
  /-- A word for a command without an argument. -/
  | plain (word : Token) (kind : Kind)
  /-- A word for a repetition, the count, and the body in brackets. -/
  | repeated (word count opening : Token) (times : Int) (body : List Phrase) (closing : Token)

namespace Phrase

mutual

/-- The tokens that a phrase spells. -/
def tokens : Phrase → List Token
  | .valued word number _ _ => [word, number]
  | .plain word _ => [word]
  | .repeated word count opening _ body closing =>
    word :: count :: opening :: (tokensAll body ++ [closing])

/-- The tokens that phrases spell one after the other. -/
def tokensAll : List Phrase → List Token
  | [] => []
  | phrase :: rest => phrase.tokens ++ tokensAll rest

end

mutual

/-- The command that a phrase stands for, at the place of its word. -/
def command : Phrase → Command
  | .valued word _ kind value => ⟨kind, some (.real value), [], word.line, word.column⟩
  | .plain word kind => ⟨kind, none, [], word.line, word.column⟩
  | .repeated word _ _ times body _ =>
    ⟨.repetition, some (.whole times), commands body, word.line, word.column⟩

/-- The commands that phrases stand for, in order. -/
def commands : List Phrase → List Command
  | [] => []
  | phrase :: rest => phrase.command :: commands rest

end

mutual

/-- The rules of the grammar for one phrase. Whether a word names a command, and which, is for the
table to say; a table may also give a name to a number or to something that is no command. -/
def Fits (keywords : Keywords) : Phrase → Prop
  | .valued word number kind value =>
    keywords.kind? word = some kind ∧ kind.takesNumber = true ∧ number.number? = some value
  | .plain word kind => keywords.kind? word = some kind ∧ kind.standsAlone = true
  | .repeated word count opening times body closing =>
    keywords.kind? word = some .repetition ∧
      (∃ value, count.number? = some value ∧ Binary64.whole? value = some times) ∧
      (1 ≤ times ∧ times ≤ 1000) ∧ opening.shape = .opening ∧ body ≠ [] ∧
      FitAll keywords body ∧ closing.shape = .closing

/-- Every phrase of a list follows the rules. -/
def FitAll (keywords : Keywords) : List Phrase → Prop
  | [] => True
  | phrase :: rest => phrase.Fits keywords ∧ FitAll keywords rest

end

/-- The phrases are a derivation of the tokens: they follow the rules, and they spell the tokens. -/
structure Derives (keywords : Keywords) (phrases : List Phrase) (tokens : List Token) : Prop where
  fits : FitAll keywords phrases
  spelled : tokensAll phrases = tokens

end Phrase

/-! ## Blocks -/

private theorem takeBlock_word {t : Token} (word : t.shape = .word) (depth : Nat)
    (rest : List Token) :
    takeBlock depth (t :: rest) = (t :: (takeBlock depth rest).1, (takeBlock depth rest).2) := by
  simp [takeBlock, word]

private theorem takeBlock_opening {t : Token} (opening : t.shape = .opening) (depth : Nat)
    (rest : List Token) :
    takeBlock depth (t :: rest) =
      (t :: (takeBlock (depth + 1) rest).1, (takeBlock (depth + 1) rest).2) := by
  simp [takeBlock, opening]

private theorem takeBlock_inner_closing {t : Token} (closing : t.shape = .closing) (depth : Nat)
    (rest : List Token) :
    takeBlock (depth + 1) (t :: rest) =
      (t :: (takeBlock depth rest).1, (takeBlock depth rest).2) := by
  simp [takeBlock, closing]

private theorem takeBlock_closing {t : Token} (closing : t.shape = .closing)
    (rest : List Token) : takeBlock 0 (t :: rest) = ([], true, rest) := by
  simp [takeBlock, closing]

/-- Tokens that cutting out a block passes over, whatever its depth and whatever follows them. -/
def PassedOver (tokens : List Token) : Prop :=
  ∀ depth rest, takeBlock depth (tokens ++ rest) =
    (tokens ++ (takeBlock depth rest).1, (takeBlock depth rest).2)

private theorem passedOver_nil : PassedOver [] := fun _ _ => rfl

theorem passedOver_word {t : Token} {tokens : List Token} (word : t.shape = .word)
    (passes : PassedOver tokens) : PassedOver (t :: tokens) := by
  intro depth rest
  rw [List.cons_append, takeBlock_word word, passes]
  rfl

private theorem passedOver_append {first second : List Token} (passes : PassedOver first)
    (next : PassedOver second) : PassedOver (first ++ second) := by
  intro depth rest
  rw [List.append_assoc, passes, next, List.append_assoc]

/-- A bracketed list is passed over when what stands between its brackets is. -/
theorem passedOver_bracketed {opening closing : Token} {inside : List Token}
    (opens : opening.shape = .opening) (closes : closing.shape = .closing)
    (passes : PassedOver inside) : PassedOver (opening :: (inside ++ [closing])) := by
  intro depth rest
  have inner := passes (depth + 1) (closing :: rest)
  rw [takeBlock_inner_closing closes] at inner
  simp only [List.cons_append, List.append_assoc, List.nil_append]
  rw [takeBlock_opening opens, inner]

/-- A block that is passed over is cut out whole at the bracket after it. -/
theorem takeBlock_passedOver {closing : Token} {inside : List Token}
    (closes : closing.shape = .closing) (passes : PassedOver inside) (rest : List Token) :
    takeBlock 0 (inside ++ closing :: rest) = (inside, true, rest) := by
  rw [passes, takeBlock_closing closes, List.append_nil]

/-- A block that was closed is followed by its closing bracket, and nothing is lost. -/
theorem takeBlock_closed_split {depth : Nat} {tokens body after : List Token}
    (cut : takeBlock depth tokens = (body, true, after)) :
    ∃ closing : Token, closing.shape = .closing ∧ tokens = body ++ closing :: after := by
  induction tokens generalizing depth body with
  | nil => simp [takeBlock] at cut
  | cons t rest ih =>
    unfold takeBlock at cut
    split at cut
    · simp at cut
    · rename_i closes
      cases cut
      exact ⟨t, closes, rfl⟩
    all_goals
      obtain ⟨rfl, left⟩ := Prod.mk.inj cut
      obtain ⟨closing, closes, whole⟩ := ih (Prod.ext rfl left)
      exact ⟨closing, closes, congrArg (t :: ·) whole⟩

/-! ## Phrases and blocks -/

theorem word_of_kind {keywords : Keywords} {t : Token} {kind : Kind}
    (named : keywords.kind? t = some kind) : t.shape = .word := by
  unfold Keywords.kind? at named
  split at named
  · assumption
  · cases named

theorem word_of_number {t : Token} {value : Float} (numeric : t.number? = some value) :
    t.shape = .word := by
  unfold Token.number? at numeric
  split at numeric
  · assumption
  · cases numeric

mutual

/-- A phrase opens no bracket that it does not close. -/
private theorem phrase_passedOver {keywords : Keywords} :
    (phrase : Phrase) → phrase.Fits keywords → PassedOver phrase.tokens
  | .valued _ _ _ _, ⟨named, _, numeric⟩ =>
    passedOver_word (word_of_kind named) (passedOver_word (word_of_number numeric) passedOver_nil)
  | .plain _ _, ⟨named, _⟩ => passedOver_word (word_of_kind named) passedOver_nil
  | .repeated _ _ _ _ body _, ⟨named, ⟨_, numeric, _⟩, _, opens, _, fits, closes⟩ =>
    passedOver_word (word_of_kind named) (passedOver_word (word_of_number numeric)
      (passedOver_bracketed opens closes (phrases_passedOver body fits)))

private theorem phrases_passedOver {keywords : Keywords} :
    (phrases : List Phrase) → Phrase.FitAll keywords phrases →
      PassedOver (Phrase.tokensAll phrases)
  | [], _ => passedOver_nil
  | phrase :: rest, ⟨fits, restFits⟩ =>
    passedOver_append (phrase_passedOver phrase fits) (phrases_passedOver rest restFits)

end

/-! ## Uniqueness -/

/-- A phrase starts with the word that names its command. -/
private theorem phrase_named {keywords : Keywords} {phrase : Phrase}
    (fits : phrase.Fits keywords) : ∃ word rest, phrase.tokens = word :: rest ∧
      keywords.kind? word = some phrase.command.kind := by
  cases phrase with
  | valued word number kind value => exact ⟨_, _, rfl, fits.1⟩
  | plain word kind => exact ⟨_, _, rfl, fits.1⟩
  | repeated word count opening times body closing => exact ⟨_, _, rfl, fits.1⟩

private theorem front_kind {keywords : Keywords} {phrase other : Phrase} {rest left : List Token}
    (fits : phrase.Fits keywords) (fits' : other.Fits keywords)
    (same : phrase.tokens ++ rest = other.tokens ++ left) :
    phrase.command.kind = other.command.kind := by
  obtain ⟨word, more, spelled, named⟩ := phrase_named fits
  obtain ⟨word', more', spelled', named'⟩ := phrase_named fits'
  rw [spelled, spelled'] at same
  obtain ⟨rfl, -⟩ : word = word' ∧ _ := by simpa using same
  exact Option.some.inj (named.symm.trans named')

private theorem valued_not_alone {kind : Kind} (valued : kind.takesNumber = true) :
    kind.standsAlone ≠ true := by
  cases kind <;> simp [Kind.takesNumber, Kind.standsAlone] at valued ⊢

mutual

/-- Of all phrases only one can stand in front of given tokens. -/
private theorem phrase_front_unique {keywords : Keywords} :
    (phrase other : Phrase) → phrase.Fits keywords → other.Fits keywords →
      (rest left : List Token) → phrase.tokens ++ rest = other.tokens ++ left →
      phrase = other ∧ rest = left
  | .valued word number kind value, .valued _ _ kind' value', ⟨named, _, numeric⟩,
      ⟨named', _, numeric'⟩, rest, left, same => by
    obtain ⟨rfl, rfl, rfl⟩ : _ ∧ _ ∧ _ := by simpa [Phrase.tokens] using same
    cases named.symm.trans named'
    cases numeric.symm.trans numeric'
    exact ⟨rfl, rfl⟩
  | .plain word kind, .plain _ kind', ⟨named, _⟩, ⟨named', _⟩, rest, left, same => by
    obtain ⟨rfl, rfl⟩ : _ ∧ _ := by simpa [Phrase.tokens] using same
    cases named.symm.trans named'
    exact ⟨rfl, rfl⟩
  | .repeated word count opening times body closing, .repeated _ _ _ times' body' closing',
      ⟨_, ⟨_, numeric, whole⟩, _, _, _, fits, closes⟩,
      ⟨_, ⟨_, numeric', whole'⟩, _, _, _, fits', closes'⟩, rest, left, same => by
    obtain ⟨rfl, rfl, rfl, inside⟩ : _ ∧ _ ∧ _ ∧
        Phrase.tokensAll body ++ closing :: rest = Phrase.tokensAll body' ++ closing' :: left := by
      simpa [Phrase.tokens] using same
    cases numeric.symm.trans numeric'
    cases whole.symm.trans whole'
    -- Both bodies end at the bracket that the block of these tokens ends at.
    have cut := takeBlock_passedOver closes (phrases_passedOver body fits) rest
    rw [inside, takeBlock_passedOver closes' (phrases_passedOver body' fits') left] at cut
    obtain ⟨bodies, rests⟩ : _ ∧ _ := by simpa using cut
    rw [bodies] at inside
    obtain ⟨rfl, -⟩ : closing = closing' ∧ _ := by simpa using inside
    rw [phrases_unique body body' fits fits' bodies.symm, rests]
    exact ⟨rfl, rfl⟩
  -- Phrases of different forms have words for commands of different kinds.
  | .valued _ _ kind _, .plain _ kind', fits, fits', _, _, same =>
    have kinds : kind' = kind := (front_kind fits fits' same).symm
    absurd (kinds ▸ fits'.2) (valued_not_alone fits.2.1)
  | .plain _ kind, .valued _ _ kind' _, fits, fits', _, _, same =>
    have kinds : kind = kind' := front_kind fits fits' same
    absurd (kinds ▸ fits.2) (valued_not_alone fits'.2.1)
  | .valued _ _ kind _, .repeated _ _ _ _ _ _, fits, fits', _, _, same => by
    have kinds : kind = .repetition := front_kind fits fits' same
    cases kinds ▸ fits.2.1
  | .repeated _ _ _ _ _ _, .valued _ _ kind _, fits, fits', _, _, same => by
    have kinds : .repetition = kind := front_kind fits fits' same
    cases kinds ▸ fits'.2.1
  | .plain _ kind, .repeated _ _ _ _ _ _, fits, fits', _, _, same => by
    have kinds : kind = .repetition := front_kind fits fits' same
    cases kinds ▸ fits.2
  | .repeated _ _ _ _ _ _, .plain _ kind, fits, fits', _, _, same => by
    have kinds : .repetition = kind := front_kind fits fits' same
    cases kinds ▸ fits'.2

/-- Tokens have at most one derivation. -/
theorem phrases_unique {keywords : Keywords} :
    (phrases others : List Phrase) → Phrase.FitAll keywords phrases →
      Phrase.FitAll keywords others → Phrase.tokensAll phrases = Phrase.tokensAll others →
      phrases = others
  | [], [], _, _, _ => rfl
  | [], other :: _, _, _, same => by
    cases other <;> simp [Phrase.tokensAll, Phrase.tokens] at same
  | phrase :: _, [], _, _, same => by
    cases phrase <;> simp [Phrase.tokensAll, Phrase.tokens] at same
  | phrase :: rest, other :: left, ⟨fits, restFits⟩, ⟨fits', leftFits⟩, same => by
    obtain ⟨rfl, spelled⟩ := phrase_front_unique phrase other fits fits' _ _ same
    rw [phrases_unique rest left restFits leftFits spelled]

end

/-! ## Reading without complaints -/

/-- The step that reads the first command of a stream, with bodies read by the reader itself. -/
def firstStep (keywords : Keywords) (s : TokenStream) : Step :=
  stepCommand keywords s fun body _ => readSteps keywords (.ofList body)

/-- The stream is read to the commands without a complaint. -/
structure ReadsCleanly (keywords : Keywords) (s : TokenStream) (commands : List Command) :
    Prop where
  commands : commandsOf (readSteps keywords s) = commands
  /-- Nothing is complained about. -/
  clean : diagnosticsOf (readSteps keywords s) = []

private theorem readsCleanly_ended (keywords : Keywords) {s : TokenStream} (ended : s.rest = []) :
    ReadsCleanly keywords s [] := by
  have stopped : readSteps keywords s = [] := by
    rw [readSteps, dif_pos (by simp [TokenStream.atEnd, TokenStream.current, ended, Token.ending])]
  exact ⟨by rw [stopped]; rfl, by rw [stopped]; rfl⟩

/-- Before the end, the first step is made, and the rest is read unless that step stays. -/
theorem readSteps_before_end (keywords : Keywords) {s : TokenStream}
    (more : s.atEnd = false) :
    readSteps keywords s = firstStep keywords s ::
      if (firstStep keywords s).stays then []
      else readSteps keywords (firstStep keywords s).next := by
  rw [readSteps, dif_neg (by simp [more])]
  change (if _ : (firstStep keywords s).stays = true then _ else _) = _
  split <;> simp_all [firstStep]

private theorem readsCleanly_cons {keywords : Keywords} {s : TokenStream} {c : Command}
    {commands : List Command} (more : s.atEnd = false)
    (given : (firstStep keywords s).outcome = .command c)
    (rest : ReadsCleanly keywords (firstStep keywords s).next commands) :
    ReadsCleanly keywords s (c :: commands) := by
  have moves : (firstStep keywords s).stays = false := by simp [Step.stays, given]
  have steps := readSteps_before_end keywords more
  rw [moves] at steps
  refine ⟨?_, ?_⟩
  · rw [steps]
    simpa [commandsOf, given, Outcome.command?] using rest.commands
  · rw [steps]
    simpa [diagnosticsOf, given, Outcome.diagnostic?] using rest.clean

/-- Where nothing is complained about before the end, the first step gives a command and what it
leaves is read without a complaint. -/
private theorem first_of_clean {keywords : Keywords} {s : TokenStream} (more : s.atEnd = false)
    (clean : diagnosticsOf (readSteps keywords s) = []) :
    ∃ c, (firstStep keywords s).outcome = .command c ∧
      diagnosticsOf (readSteps keywords (firstStep keywords s).next) = [] := by
  rw [readSteps_before_end keywords more] at clean
  cases given : (firstStep keywords s).outcome with
  | command c =>
    have moves : (firstStep keywords s).stays = false := by simp [Step.stays, given]
    exact ⟨c, rfl, by simpa [diagnosticsOf, moves, given, Outcome.diagnostic?] using clean⟩
  | refusal d => simp [diagnosticsOf, given, Outcome.diagnostic?] at clean
  | fault word kind line => simp [diagnosticsOf, given, Outcome.diagnostic?] at clean

/-! ## Which step reads a word -/

section Dispatch

variable {keywords : Keywords} {s : TokenStream} {kind : Kind}

theorem not_closing (named : keywords.kind? s.current = some kind) :
    s.current.shape ≠ .closing := by
  simp [word_of_kind named]

theorem firstStep_valued (named : keywords.kind? s.current = some kind)
    (valued : kind.takesNumber = true) : firstStep keywords s = stepValue keywords kind s := by
  simp [firstStep, stepCommand, not_closing named, named, valued]

theorem firstStep_alone (named : keywords.kind? s.current = some kind)
    (alone : kind.standsAlone = true) : firstStep keywords s =
      ⟨.command ⟨kind, none, [], s.current.line, s.current.column⟩, [], s.advance⟩ := by
  have notValued : kind.takesNumber ≠ true := fun valued => valued_not_alone valued alone
  simp [firstStep, stepCommand, not_closing named, named, notValued, alone]

theorem firstStep_repetition (named : keywords.kind? s.current = some .repetition) :
    firstStep keywords s =
      stepRepeat keywords s fun body _ => readSteps keywords (.ofList body) := by
  simp [firstStep, stepCommand, not_closing named, named, Kind.takesNumber, Kind.standsAlone]

/-- A step that gives a command is at a word for one, of one of three sorts. -/
private theorem named_of_command {c : Command}
    (given : (firstStep keywords s).outcome = .command c) :
    ∃ kind, keywords.kind? s.current = some kind ∧
      (kind.takesNumber = true ∨ kind.standsAlone = true ∨ kind = .repetition) := by
  unfold firstStep stepCommand at given
  by_cases closing : s.current.shape = .closing
  · simp [closing, Step.refuse] at given
  cases named : keywords.kind? s.current with
  | none => simp [closing, named, Step.refuse] at given
  | some kind =>
    refine ⟨kind, rfl, ?_⟩
    cases kind with
    | other name => simp [closing, named, Kind.takesNumber, Kind.standsAlone] at given
    | _ => simp [Kind.takesNumber, Kind.standsAlone]

end Dispatch

/-! ## Completeness -/

theorem wholeCount?_eq_some {value : Float} {times : Int} :
    wholeCount? value = some times ↔
      Binary64.whole? value = some times ∧ 1 ≤ times ∧ times ≤ 1000 := by
  unfold wholeCount?
  cases Binary64.whole? value with
  | none => simp
  | some whole =>
    simp only [Command.countAllowed, Command.leastCount, Command.greatestCount]
    grind

private theorem tokensAll_ne_nil {phrases : List Phrase} (nonempty : phrases ≠ []) :
    Phrase.tokensAll phrases ≠ [] := by
  match phrases, nonempty with
  | phrase :: rest, _ => cases phrase <;> simp [Phrase.tokensAll, Phrase.tokens]

theorem before_end_of_phrase {keywords : Keywords} {phrase : Phrase}
    (fits : phrase.Fits keywords) (position : Nat) (rest : List Token) :
    (TokenStream.mk position (phrase.tokens ++ rest)).atEnd = false := by
  obtain ⟨word, more, spelled, named⟩ := phrase_named fits
  simp [TokenStream.atEnd, TokenStream.current, spelled, word_of_kind named]

theorem block_of_cut (opening : Token) (position : Nat) {tokens inside rest : List Token}
    {closed : Bool} (cut : takeBlock 0 tokens = (inside, closed, rest)) :
    (TokenStream.mk position (opening :: tokens)).block =
      ⟨inside, closed, ⟨position + 1 + inside.length + (if closed then 1 else 0), rest⟩⟩ := by
  simp [TokenStream.block, TokenStream.advance, cut]

mutual

/-- The reader takes a phrase in front of any tokens for its command, and leaves those tokens. -/
theorem firstStep_phrase {keywords : Keywords} :
    (phrase : Phrase) → phrase.Fits keywords → (position : Nat) → (rest : List Token) →
      (firstStep keywords ⟨position, phrase.tokens ++ rest⟩).outcome = .command phrase.command ∧
      (firstStep keywords ⟨position, phrase.tokens ++ rest⟩).next.rest = rest
  | .valued word number kind value, ⟨named, valued, numeric⟩, position, rest => by
    rw [firstStep_valued named valued]
    simp [stepValue, Phrase.tokens, Phrase.command, TokenStream.current, TokenStream.advance,
      numeric]
  | .plain word kind, ⟨named, alone⟩, position, rest => by
    rw [firstStep_alone named alone]
    exact ⟨rfl, rfl⟩
  | .repeated word count opening times body closing,
      ⟨named, ⟨value, numeric, whole⟩, range, opens, nonempty, fits, closes⟩, position, rest => by
    have counted := wholeCount?_eq_some.mpr ⟨whole, range⟩
    have cut := takeBlock_passedOver closes (phrases_passedOver body fits) rest
    have block := block_of_cut opening (position + 1 + 1) cut
    have filled := tokensAll_ne_nil nonempty
    have inner := readsCleanly_phrases body fits (.ofList (Phrase.tokensAll body)) rfl
    have spelled : (Phrase.repeated word count opening times body closing).tokens ++ rest =
        word :: count :: opening :: (Phrase.tokensAll body ++ closing :: rest) := by
      simp [Phrase.tokens]
    rw [spelled, firstStep_repetition named]
    simp [stepRepeat, Phrase.command, TokenStream.current, TokenStream.advance, numeric, counted,
      opens, block, filled, inner.clean, inner.commands]

/-- Phrases are read to their commands. -/
private theorem readsCleanly_phrases {keywords : Keywords} :
    (phrases : List Phrase) → Phrase.FitAll keywords phrases → (s : TokenStream) →
      s.rest = Phrase.tokensAll phrases → ReadsCleanly keywords s (Phrase.commands phrases)
  | [], _, s, spelled => readsCleanly_ended keywords spelled
  | phrase :: rest, ⟨fits, restFits⟩, ⟨position, left⟩, spelled => by
    cases spelled
    obtain ⟨given, leaves⟩ := firstStep_phrase phrase fits position (Phrase.tokensAll rest)
    have more := before_end_of_phrase fits position (Phrase.tokensAll rest)
    exact readsCleanly_cons more given (readsCleanly_phrases rest restFits _ leaves)

end

/-! ## Soundness -/

theorem rest_eq_current_cons {s : TokenStream} (more : s.current.shape ≠ .ending) :
    s.rest = s.current :: s.advance.rest := by
  obtain ⟨position, rest⟩ := s
  cases rest with
  | nil => exact absurd rfl more
  | cons t rest => rfl

private theorem rest_of_word {s : TokenStream} (word : s.current.shape = .word) :
    s.rest = s.current :: s.advance.rest :=
  rest_eq_current_cons (by simp [word])

private theorem block_closed_split {s : TokenStream} (closed : s.block.closed = true) :
    ∃ closing : Token, closing.shape = .closing ∧
      s.advance.rest = s.block.body ++ closing :: s.block.next.rest :=
  takeBlock_closed_split (Prod.ext rfl (Prod.ext closed rfl))

/-- A command with a number was read from its word and a number. -/
private theorem stepValue_command {keywords : Keywords} {kind : Kind} {s : TokenStream}
    {c : Command} (given : (stepValue keywords kind s).outcome = .command c) :
    ∃ value, s.advance.current.number? = some value ∧
      (stepValue keywords kind s).next = s.advance.advance := by
  unfold stepValue at given ⊢
  cases numeric : s.advance.current.number? with
  | none => simp [numeric, Step.refuse] at given
  | some value => exact ⟨value, rfl, by simp [numeric]⟩

/-- A repetition was read from its word, its count, and a bracketed body that is read without a
complaint. -/
private theorem stepRepeat_command {keywords : Keywords} {s : TokenStream} {c : Command}
    {read : List Token → List Step}
    (given : (stepRepeat keywords s fun body _ => read body).outcome = .command c) :
    ∃ value times closing body, s.advance.current.number? = some value ∧
      wholeCount? value = some times ∧ s.advance.advance.current.shape = .opening ∧
      closing.shape = .closing ∧ body ≠ [] ∧ diagnosticsOf (read body) = [] ∧
      s.advance.advance.advance.rest =
        body ++ closing :: (stepRepeat keywords s fun body _ => read body).next.rest := by
  unfold stepRepeat at given ⊢
  cases numeric : s.advance.current.number? with
  | none => simp [numeric, Step.refuse] at given
  | some value =>
    cases counted : wholeCount? value with
    | none => simp [numeric, counted, Step.refuse] at given
    | some times =>
      by_cases opens : s.advance.advance.current.shape = .opening
      · by_cases closed : s.advance.advance.block.closed = true
        · by_cases empty : s.advance.advance.block.body.isEmpty = true
          · simp [numeric, counted, opens, closed, empty, Step.refuse] at given
          · obtain ⟨closing, closes, whole⟩ := block_closed_split closed
            simp only [numeric, counted, opens, closed, empty] at given ⊢
            refine ⟨value, times, closing, _, rfl, counted, trivial, closes, by simpa using empty,
              ?_, whole⟩
            cases clean : diagnosticsOf (read s.advance.advance.block.body) with
            | nil => rfl
            | cons first others => simp [clean] at given
        · simp [numeric, counted, opens, closed, Step.refuse] at given
      · simp [numeric, counted, opens, Step.refuse] at given

/-- What a first step that gives a command has read: a whole phrase without a body, or a repetition
around a body that is read without a complaint. -/
private theorem firstStep_command {keywords : Keywords} {s : TokenStream} {c : Command}
    (given : (firstStep keywords s).outcome = .command c) :
    (∃ phrase : Phrase, phrase.Fits keywords ∧
      s.rest = phrase.tokens ++ (firstStep keywords s).next.rest) ∨
    ∃ word count opening closing value times body, keywords.kind? word = some .repetition ∧
      count.number? = some value ∧ wholeCount? value = some times ∧ opening.shape = .opening ∧
      closing.shape = .closing ∧ body ≠ [] ∧
      diagnosticsOf (readSteps keywords (.ofList body)) = [] ∧
      s.rest =
        word :: count :: opening :: (body ++ closing :: (firstStep keywords s).next.rest) := by
  obtain ⟨kind, named, valued | alone | rfl⟩ := named_of_command given
  · rw [firstStep_valued named valued] at given ⊢
    obtain ⟨value, numeric, next⟩ := stepValue_command given
    refine .inl ⟨.valued s.current s.advance.current kind value, ⟨named, valued, numeric⟩, ?_⟩
    rw [next, rest_of_word (word_of_kind named), rest_of_word (word_of_number numeric)]
    rfl
  · rw [firstStep_alone named alone]
    exact .inl ⟨.plain s.current kind, ⟨named, alone⟩, rest_of_word (word_of_kind named)⟩
  · rw [firstStep_repetition named] at given ⊢
    obtain ⟨value, times, closing, body, numeric, counted, opens, closes, nonempty, clean,
      inside⟩ := stepRepeat_command given
    refine .inr ⟨s.current, s.advance.current, s.advance.advance.current, closing, value, times,
      body, named, numeric, counted, opens, closes, nonempty, clean, ?_⟩
    rw [← inside, ← rest_eq_current_cons (by simp [opens]),
      ← rest_of_word (word_of_number numeric), ← rest_of_word (word_of_kind named)]

private theorem before_end_of_unended {s : TokenStream} {t : Token} {rest : List Token}
    (tokens : s.rest = t :: rest) (unended : ∀ t ∈ s.rest, t.shape ≠ .ending) :
    s.atEnd = false := by
  have first := unended t (by simp [tokens])
  simpa [TokenStream.atEnd, TokenStream.current, tokens] using first

/-- A first step that gives a command has read a whole phrase, once the bodies of repetitions are
known to have derivations. -/
private theorem phrase_of_command {keywords : Keywords} {s : TokenStream} {c : Command}
    (given : (firstStep keywords s).outcome = .command c)
    (unended : ∀ t ∈ s.rest, t.shape ≠ .ending)
    (bodies : ∀ body : List Token, body.length < s.rest.length →
      (∀ t ∈ body, t.shape ≠ .ending) → diagnosticsOf (readSteps keywords (.ofList body)) = [] →
      ∃ phrases, Phrase.Derives keywords phrases body) :
    ∃ phrase : Phrase, phrase.Fits keywords ∧
      s.rest = phrase.tokens ++ (firstStep keywords s).next.rest := by
  obtain whole | ⟨word, count, opening, closing, value, times, body, named, numeric, counted, opens,
    closes, nonempty, clean, spelled⟩ := firstStep_command given
  · exact whole
  · have shorter : body.length < s.rest.length := by
      rw [spelled]
      simp only [List.length_cons, List.length_append]
      omega
    obtain ⟨inside, fits, insideSpelled⟩ := bodies body shorter
      (fun t member => unended t (by simp [spelled, member])) clean
    have filled : inside ≠ [] := by
      rintro rfl
      exact nonempty insideSpelled.symm
    obtain ⟨whole, range⟩ := wholeCount?_eq_some.mp counted
    refine ⟨.repeated word count opening times inside closing,
      ⟨named, ⟨value, numeric, whole⟩, range, opens, filled, fits, closes⟩, ?_⟩
    rw [spelled, Phrase.tokens, insideSpelled]
    simp

/-- Tokens that are read without a complaint have a derivation. The induction is on the number of
tokens, since a body is read by itself and is no part of the list that its repetition leaves. -/
private theorem derivation_of_clean (keywords : Keywords) (size : Nat) (s : TokenStream)
    (short : s.rest.length ≤ size) (unended : ∀ t ∈ s.rest, t.shape ≠ .ending)
    (clean : diagnosticsOf (readSteps keywords s) = []) :
    ∃ phrases, Phrase.Derives keywords phrases s.rest := by
  induction size generalizing s with
  | zero => exact ⟨[], trivial, (List.length_eq_zero_iff.mp (Nat.le_zero.mp short)).symm⟩
  | succ size ih =>
    cases tokens : s.rest with
    | nil => exact ⟨[], trivial, rfl⟩
    | cons t others =>
      have more := before_end_of_unended tokens unended
      obtain ⟨c, given, restClean⟩ := first_of_clean more clean
      obtain ⟨phrase, fits, spelled⟩ := phrase_of_command given unended
        fun body shorter bodyUnended bodyClean =>
          ih (.ofList body) (Nat.le_of_lt_succ (Nat.lt_of_lt_of_le shorter short)) bodyUnended
            bodyClean
      have shorter : (firstStep keywords s).next.rest.length ≤ size := by
        obtain ⟨word, more, first, -⟩ := phrase_named fits
        have lengths := congrArg List.length spelled
        simp only [first, List.length_append, List.length_cons] at lengths
        omega
      obtain ⟨phrases, restFits, restSpelled⟩ := ih _ shorter
        (fun t member => unended t (by simp [spelled, member])) restClean
      rw [← tokens, spelled, ← restSpelled]
      exact ⟨phrase :: phrases, ⟨fits, restFits⟩, rfl⟩

theorem derives_of_clean {keywords : Keywords} {tokens : List Token}
    (unended : ∀ t ∈ tokens, t.shape ≠ .ending)
    (clean : (readTokens keywords tokens).errors = []) :
    ∃ phrases, Phrase.Derives keywords phrases tokens :=
  derivation_of_clean keywords tokens.length (.ofList tokens) (Nat.le_refl _) unended clean

theorem Phrase.Derives.readTokens {keywords : Keywords} {phrases : List Phrase}
    {tokens : List Token} (derived : Derives keywords phrases tokens) :
    readTokens keywords tokens = ⟨commands phrases, []⟩ := by
  have read := readsCleanly_phrases phrases derived.fits (.ofList tokens) derived.spelled.symm
  simp only [TurtleScript.readTokens, read.commands, read.clean]

/-! ## The reader accepts exactly the grammar -/

/-- Tokens without a premature end are read without a complaint exactly if the grammar derives
them. Then there is one derivation, and the commands that are read are its commands: in the same
order, each with the kind of its word, its number or count, its body, and the place of its word. -/
theorem readTokens_accepts_grammar (keywords : Keywords) (tokens : List Token)
    (unended : ∀ t ∈ tokens, t.shape ≠ .ending) :
    ((readTokens keywords tokens).errors = [] ↔
      ∃ phrases, Phrase.Derives keywords phrases tokens) ∧
    ∀ phrases, Phrase.Derives keywords phrases tokens →
      (∀ others, Phrase.Derives keywords others tokens → others = phrases) ∧
      readTokens keywords tokens = ⟨Phrase.commands phrases, []⟩ := by
  have complete : ∀ phrases, Phrase.Derives keywords phrases tokens →
      readTokens keywords tokens = ⟨Phrase.commands phrases, []⟩ := by
    intro phrases derived
    have read := readsCleanly_phrases phrases derived.fits (.ofList tokens) derived.spelled.symm
    simp only [readTokens, read.commands, read.clean]
  refine ⟨⟨fun clean => ?_, fun ⟨phrases, derived⟩ => ?_⟩, fun phrases derived => ⟨?_, ?_⟩⟩
  · exact derivation_of_clean keywords tokens.length (.ofList tokens) (Nat.le_refl _) unended clean
  · rw [complete phrases derived]
  · intro others derived'
    exact phrases_unique others phrases derived'.fits derived.fits
      (derived'.spelled.trans derived.spelled.symm)
  · exact complete phrases derived

/-- The phrases of a repetition around a command with a number and one without. -/
private def nestedPhrases : List Phrase :=
  [.repeated ⟨.word, "REPEAT", 1, 1⟩ ⟨.word, "2", 1, 8⟩ ⟨.opening, "[", 1, 10⟩ 2
    [.valued ⟨.word, "FD", 1, 12⟩ ⟨.word, "10", 1, 15⟩ .forward 10.0,
      .plain ⟨.word, "PU", 1, 18⟩ .penUp] ⟨.closing, "]", 1, 21⟩]

private theorem nestedPhrases_derive :
    Phrase.Derives .standard nestedPhrases (tokens "REPEAT 2 [ FD 10 PU ]") := by
  refine ⟨⟨⟨rfl, ⟨2.0, ?_, ?_⟩, by decide, rfl, by simp, ⟨⟨rfl, rfl, ?_⟩, ⟨rfl, rfl⟩, trivial⟩,
    rfl⟩, trivial⟩, ?_⟩
  all_goals decide +kernel

/-- The grammar at work on a repetition with two commands in its body. -/
theorem readTokens_accepts_nested :
    (∀ t ∈ tokens "REPEAT 2 [ FD 10 PU ]", t.shape ≠ .ending) ∧
      readTokens .standard (tokens "REPEAT 2 [ FD 10 PU ]") =
        ⟨[⟨.repetition, some (.whole 2), [⟨.forward, some (.real 10.0), [], 1, 12⟩,
          ⟨.penUp, none, [], 1, 18⟩], 1, 1⟩], []⟩ := by
  have unended : ∀ t ∈ tokens "REPEAT 2 [ FD 10 PU ]", t.shape ≠ .ending := by decide +kernel
  exact ⟨unended,
    ((readTokens_accepts_grammar _ _ unended).2 nestedPhrases nestedPhrases_derive).2⟩

end TurtleScript
