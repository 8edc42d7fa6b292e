import TurtleScript.Language.Reader
import TurtleScript.Proofs.Reading

/-!
Reading as a loop that accounts for every construct. The loop asks for one command after another
until it is at the end; it is described by the readers at which it asked, without a measure and
without a bound. Every list of tokens has such a loop, and what the reader gives is what the loop
gathers. Each call moves on and either gives a command or adds one complaint; a call that can do
neither is the last one, and its complaint is the last complaint.
-/
namespace TurtleScript

/-! ## The wording of complaints -/

/-- A wording that starts like that of an unexpected error. -/
def Unexpected (message : String) : Prop :=
  "Unexpected error".toList <+: message.toList

/-- Words that differ early enough differ whatever follows. -/
private theorem not_unexpected_of_take {message : String}
    (apart : message.toList.take 16 ≠ "Unexpected error".toList) : ¬ Unexpected message := by
  intro unexpected
  exact apart (List.prefix_iff_eq_take.mp unexpected).symm

private theorem take_append {first second : String} (long : 16 ≤ first.toList.length) :
    (first ++ second).toList.take 16 = first.toList.take 16 := by
  rw [String.toList_append, List.take_append_of_le_length long]

private theorem not_unexpected_append {first : String} (long : 16 ≤ first.toList.length)
    (apart : first.toList.take 16 ≠ "Unexpected error".toList) (second : String) :
    ¬ Unexpected (first ++ second) :=
  not_unexpected_of_take (by rwa [take_append long])

theorem Cause.Expected.wording {cause : Cause} (expected : cause.Expected) :
    ¬ Unexpected cause.message := by
  cases cause with
  | unknownTarget word kind => exact expected.elim
  | unknownCommand text => exact not_unexpected_append (by decide) (by decide) text
  | needsNumber kind =>
    cases kind with
    | forward | back | left | right | color => exact not_unexpected_of_take (by decide +kernel)
    | _ => cases expected
  | _ => exact not_unexpected_of_take (by decide +kernel)

theorem Diagnostic.inner_wording {d : Diagnostic} (inner : d.inner = true) :
    ¬ Unexpected d.message := by
  rw [Diagnostic.message, if_pos inner]
  exact not_unexpected_append (by decide) (by decide) d.cause.message

theorem Diagnostic.wording {d : Diagnostic} (worded : d.cause.Expected ∨ d.inner = true) :
    ¬ Unexpected d.message := by
  rcases worded with expected | inner
  · by_cases inner : d.inner = true
    · exact Diagnostic.inner_wording inner
    · rw [Diagnostic.message, if_neg inner]
      exact expected.wording
  · exact Diagnostic.inner_wording inner

/-! ## Tables of commands only -/

/-- Every word of the table stands for a command. -/
def Keywords.Canonical (keywords : Keywords) : Prop :=
  ∀ word kind, keywords.lookup word = some kind → kind.isCanonical = true

theorem Keywords.Canonical.kind? {keywords : Keywords} (canonical : keywords.Canonical)
    {t : Token} {kind : Kind} (named : keywords.kind? t = some kind) : kind.isCanonical = true := by
  unfold Keywords.kind? at named
  split at named
  · exact canonical t.text kind named
  · cases named

/-- With such a table nothing unexpected is met, at any depth. -/
theorem Keywords.Canonical.expected {keywords : Keywords} (canonical : keywords.Canonical)
    (s : TokenStream) : ∀ d ∈ diagnosticsOf (readSteps keywords s), d.cause.Expected := by
  have steps := readSteps_all keywords
    (fun step => ∀ d, step.outcome.diagnostic? = some d → d.cause.Expected) ?_ s
  · intro d member
    obtain ⟨step, among, given⟩ := List.mem_filterMap.mp member
    exact steps step among d given
  · intro s _ inside
    have takes := firstStep_takes keywords s
    generalize firstStep keywords s = step at takes
    intro d given
    cases takes with
    | refused expected _ =>
      cases given
      exact expected
    | valued | plain | repeated => cases given
    | @spoilt body first others _ shorter complaints _ =>
      cases given
      have member : first ∈ diagnosticsOf (readSteps keywords (.ofList body)) := by
        simp [complaints]
      obtain ⟨step, among, given⟩ := List.mem_filterMap.mp member
      exact inside body shorter step among first given
    | faulted named unknown => exact absurd (canonical.kind? named) (by simp [unknown])

/-! ## The loop -/

namespace Reader

/-- The complaint about a keyword for something that is no command, at the current token. -/
def complain (r : Reader) (target : UnknownTarget) : Reader :=
  { r with
    errors := r.errors ++
      [⟨.unknownTarget target.word target.kind, false, r.current.knownLine⟩] }

/-- The loop of a reader: the readers at which a command was asked for, the commands that were
given, and the reader that is left. -/
inductive Loops : Reader → List Reader → List Command → Reader → Prop
  | ended {r : Reader} (ended : r.stream.atEnd = true) : Loops r [] [] r
  | command {r next final : Reader} {calls : List Reader} {c : Command} {commands : List Command}
    (more : r.stream.atEnd = false) (read : r.readCommand = .ok (some c, next))
    (rest : Loops next calls commands final) : Loops r (r :: calls) (c :: commands) final
  | refusal {r next final : Reader} {calls : List Reader} {commands : List Command}
    (more : r.stream.atEnd = false) (read : r.readCommand = .ok (none, next))
    (rest : Loops next calls commands final) : Loops r (r :: calls) commands final
  | fault {r : Reader} {target : UnknownTarget} (more : r.stream.atEnd = false)
    (read : r.readCommand = .error target) : Loops r [r] [] (r.complain target)

/-- What one call comes to over so many tokens. It moves on, not past the last token, and gives a
command or adds a complaint; or the current word stands for something that is no command. -/
def Accounted (r : Reader) (length : Nat) : Prop :=
  match r.readCommand with
  | .ok (answer, next) =>
    (r.stream.position < next.stream.position ∧ next.stream.position ≤ length) ∧
      (answer.isSome = true ∧ next.errors = r.errors ∨
        answer = none ∧ ∃ d, next.errors = r.errors ++ [d])
  | .error target =>
    target.word = r.current.text ∧ r.keywords.kind? r.current = some target.kind ∧
      target.kind.isCanonical = false

/-! ## One call -/

/-- What a call makes of a reader, by the form of its step. -/
inductive Calls (r : Reader) : Except UnknownTarget (Option Command × Reader) → Prop
  | command {c : Command} {next : TokenStream} (passes : r.stream.advance.Passes next) :
    Calls r (.ok (some c, { r with stream := next }))
  | refusal {d : Diagnostic} {next : TokenStream} (worded : d.cause.Expected ∨ d.inner = true)
    (passes : r.stream.advance.Passes next) :
    Calls r (.ok (none, { r with stream := next, errors := r.errors ++ [d] }))
  | fault {kind : Kind} (named : r.keywords.kind? r.current = some kind)
    (unknown : kind.isCanonical = false) : Calls r (.error ⟨r.current.text, kind⟩)

theorem readCommand_calls (r : Reader) : r.Calls r.readCommand := by
  have takes := firstStep_takes r.keywords r.stream
  have read : r.readCommand = r.take (firstStep r.keywords r.stream) := rfl
  rw [read]
  generalize firstStep r.keywords r.stream = step at takes
  cases takes with
  | refused expected passes => exact .refusal (.inl expected) passes
  | valued _ _ passes => exact .command passes
  | plain => exact .command (.refl _)
  | repeated _ _ _ _ _ passes => exact .command passes
  | spoilt _ _ passes => exact .refusal (.inr rfl) passes
  | faulted named unknown => exact .fault named unknown

/-- A reader of a list of tokens, wherever it has come to. -/
structure Within (keywords : Keywords) (tokens : List Token) (r : Reader) : Prop where
  keywords : r.keywords = keywords
  passes : (TokenStream.ofList tokens).Passes r.stream

variable {keywords : Keywords} {tokens : List Token} {r after final : Reader}
  {calls : List Reader} {commands : List Command}

private theorem position_le_length {s : TokenStream}
    (passes : (TokenStream.ofList tokens).Passes s) : s.position ≤ tokens.length := by
  obtain ⟨passed, split, position, -⟩ := passes
  have lengths := congrArg List.length split
  simp only [TokenStream.ofList, List.length_append] at lengths position
  omega

private theorem current_unended (more : r.stream.atEnd = false) :
    r.stream.current.shape ≠ .ending := by
  simpa [TokenStream.atEnd] using more

theorem Within.accounted (within : r.Within keywords tokens) (more : r.stream.atEnd = false) :
    r.Accounted tokens.length := by
  have first := within.passes.trans (advance_passes (current_unended more))
  have call := readCommand_calls r
  unfold Accounted
  generalize r.readCommand = answer at call
  cases call with
  | command passes =>
    exact ⟨⟨passes.position_le, position_le_length (first.trans passes)⟩, .inl ⟨rfl, rfl⟩⟩
  | refusal _ passes =>
    exact ⟨⟨passes.position_le, position_le_length (first.trans passes)⟩, .inr ⟨rfl, _, rfl⟩⟩
  | fault named unknown => exact ⟨rfl, named, unknown⟩

theorem Within.next (within : r.Within keywords tokens) (more : r.stream.atEnd = false)
    {answer : Option Command} (read : r.readCommand = .ok (answer, after)) :
    after.Within keywords tokens := by
  have first := within.passes.trans (advance_passes (current_unended more))
  have call := readCommand_calls r
  rw [read] at call
  cases call with
  | command passes => exact ⟨within.keywords, first.trans passes⟩
  | refusal _ passes => exact ⟨within.keywords, first.trans passes⟩

/-! ## What a whole loop comes to -/

theorem Loops.calls_within (loops : Loops r calls commands final)
    (within : r.Within keywords tokens) : (∀ call ∈ calls, call.Within keywords tokens ∧
      call.stream.atEnd = false) ∧ final.Within keywords tokens := by
  induction loops with
  | ended => exact ⟨nofun, within⟩
  | command more read _ ih | refusal more read _ ih =>
    obtain ⟨later, last⟩ := ih (within.next more read)
    refine ⟨?_, last⟩
    intro call member
    rcases List.mem_cons.mp member with rfl | member
    · exact ⟨within, more⟩
    · exact later call member
  | fault more read =>
    refine ⟨?_, within.keywords, within.passes⟩
    intro call member
    rw [List.mem_singleton.mp member]
    exact ⟨within, more⟩

/-- Every call has given a command or a complaint. -/
theorem Loops.count (loops : Loops r calls commands final) :
    commands.length + final.errors.length = calls.length + r.errors.length := by
  induction loops with
  | ended => simp
  | @command r _ _ _ _ _ _ read _ ih =>
    have call := readCommand_calls r
    rw [read] at call
    cases call
    simp only [List.length_cons] at ih ⊢
    omega
  | @refusal r _ _ _ _ _ read _ ih =>
    have call := readCommand_calls r
    rw [read] at call
    cases call
    simp only [List.length_cons, List.length_append, List.length_nil] at ih ⊢
    omega
  | fault => simp [complain, Nat.add_comm]

/-- A loop adds complaints, and none but the last one is worded as unexpected. -/
theorem Loops.unexpected_last (loops : Loops r calls commands final) :
    ∃ added, final.errors = r.errors ++ added ∧ ∀ d ∈ added.dropLast, ¬ Unexpected d.message := by
  induction loops with
  | ended => exact ⟨[], by simp, nofun⟩
  | @command r _ _ _ _ _ _ read _ ih =>
    have call := readCommand_calls r
    rw [read] at call
    cases call
    exact ih
  | @refusal r _ _ _ _ _ read _ ih =>
    have call := readCommand_calls r
    rw [read] at call
    cases call with
    | @refusal first _ worded _ =>
      obtain ⟨added, errors, expected⟩ := ih
      refine ⟨first :: added, by simp [errors], ?_⟩
      intro d member
      cases added with
      | nil => cases member
      | cons second others =>
        rcases List.mem_cons.mp member with rfl | member
        · exact Diagnostic.wording worded
        · exact expected d member
  | fault => exact ⟨_, rfl, nofun⟩

/-- A loop in which every keyword stands for a command comes to the end. -/
theorem Loops.reaches_end (loops : Loops r calls commands final)
    (within : r.Within keywords tokens) (canonical : keywords.Canonical) :
    final.stream.atEnd = true := by
  induction loops with
  | ended ended => exact ended
  | command more read _ ih | refusal more read _ ih => exact ih (within.next more read)
  | @fault r target more read =>
    have call := readCommand_calls r
    rw [read] at call
    cases call with
    | fault named unknown =>
      rw [within.keywords] at named
      exact absurd (canonical.kind? named) (by simp [unknown])

/-! ## The reader makes the loop -/

private theorem call_shorter (more : r.stream.atEnd = false) {answer : Option Command}
    (read : r.readCommand = .ok (answer, after)) :
    after.stream.rest.length < r.stream.rest.length := by
  have first := advance_rest_lt r.stream more
  have call := readCommand_calls r
  rw [read] at call
  cases call with
  | command passes | refusal _ passes =>
    obtain ⟨passed, split, -, -⟩ := passes
    have lengths := congrArg List.length split
    rw [List.length_append] at lengths
    dsimp only
    omega

private theorem readAll_ended (ended : r.stream.atEnd = true) :
    r.readAll = (⟨[], r.errors⟩, r) := by
  have stopped : readSteps r.keywords r.stream = [] := by
    rw [readSteps, dif_pos ended]
  simp [readAll, stopped, commandsOf, diagnosticsOf, leftBy]

/-- What a reader gives is what it gives after its first call, with what that call gave. -/
private theorem readAll_call (more : r.stream.atEnd = false) {answer : Option Command}
    (read : r.readCommand = .ok (answer, after)) :
    r.readAll = (⟨answer.toList ++ after.readAll.1.commands, after.readAll.2.errors⟩,
      after.readAll.2) := by
  have taken : r.take (firstStep r.keywords r.stream) = .ok (answer, after) := read
  have steps := readSteps_before_end r.keywords more
  unfold take at taken
  cases given : (firstStep r.keywords r.stream).outcome with
  | fault => simp [given] at taken
  | command c =>
    simp only [given, Except.ok.injEq, Prod.mk.injEq] at taken
    obtain ⟨rfl, rfl⟩ := taken
    simp [readAll, steps, Step.stays, given, leftBy_cons, commandsOf, diagnosticsOf,
      Outcome.command?, Outcome.diagnostic?]
  | refusal d =>
    simp only [given, Except.ok.injEq, Prod.mk.injEq] at taken
    obtain ⟨rfl, rfl⟩ := taken
    simp [readAll, steps, Step.stays, given, leftBy_cons, commandsOf, diagnosticsOf,
      Outcome.command?, Outcome.diagnostic?]

private theorem readAll_fault (more : r.stream.atEnd = false) {target : UnknownTarget}
    (read : r.readCommand = .error target) :
    r.readAll = (⟨[], (r.complain target).errors⟩, r.complain target) := by
  have takes := firstStep_takes r.keywords r.stream
  have taken : r.take (firstStep r.keywords r.stream) = .error target := read
  have steps := readSteps_before_end r.keywords more
  generalize firstStep r.keywords r.stream = step at takes taken steps
  cases takes with
  | faulted named unknown =>
    cases taken
    simp [readAll, steps, Step.stays, leftBy, commandsOf, diagnosticsOf, Outcome.command?,
      Outcome.diagnostic?, complain, current]
  | _ => cases taken

/-- Every reader has a loop, which gives what it gives. The induction is on the tokens that are
left; each call leaves fewer. -/
theorem loops_readAll (r : Reader) :
    ∃ calls, Loops r calls r.readAll.1.commands r.readAll.2 := by
  induction size : r.stream.rest.length using Nat.strongRecOn generalizing r with
  | ind size ih =>
    subst size
    cases more : r.stream.atEnd with
    | true =>
      rw [readAll_ended more]
      exact ⟨[], .ended more⟩
    | false =>
      cases read : r.readCommand with
      | error target =>
        rw [readAll_fault more read]
        exact ⟨[r], .fault more read⟩
      | ok result =>
        obtain ⟨answer, after⟩ := result
        obtain ⟨calls, loops⟩ := ih _ (call_shorter more read) after rfl
        rw [readAll_call more read]
        cases answer with
        | none => exact ⟨r :: calls, .refusal more read loops⟩
        | some c => exact ⟨r :: calls, .command more read loops⟩

end Reader

/-- The place of the first ending is where a stream ends that has passed no ending. -/
theorem position_eq_findIdx {tokens : List Token} {s : TokenStream}
    (passes : (TokenStream.ofList tokens).Passes s) (ended : s.atEnd = true) :
    s.position = tokens.findIdx (fun t => t.shape = .ending) := by
  obtain ⟨passed, split, position, unended⟩ := passes
  have none : passed.findIdx (fun t => t.shape = .ending) = passed.length := by
    apply List.findIdx_eq_length.mpr
    simpa using unended
  have head : s.rest.findIdx (fun t => t.shape = .ending) = 0 := by
    cases rest : s.rest with
    | nil => rfl
    | cons t others =>
      have ending : t.shape = .ending := by
        simpa [TokenStream.atEnd, TokenStream.current, rest] using ended
      simp [List.findIdx_cons, ending]
  have whole : tokens = passed ++ s.rest := split
  rw [whole, List.findIdx_append, none, head]
  simpa [TokenStream.ofList] using position

/-! ## Accounting -/

/-- Reading any tokens with any table. There is a loop that asks for commands at one reader after
another and comes to an end, and it gives the commands and complaints of the program. Every call is
before the end and accounted for: it moves on within the tokens and gives a command or adds one
complaint, or it meets a word for something that is no command, where nothing moves. So there are as
many commands and complaints as calls. If every word of the table stands for a command, the reading
goes up to the first ending and nothing is worded as unexpected, inside repetitions neither; else
none but the last complaint is. -/
theorem reading_is_accounted (keywords : Keywords) (tokens : List Token) :
    let program := readTokens keywords tokens
    let final := (Reader.ofTokens keywords tokens).readAll.2
    (Reader.ofTokens keywords tokens).readAll.1 = program ∧ final.errors = program.errors ∧
    ∃ calls, Reader.Loops (.ofTokens keywords tokens) calls program.commands final ∧
      (∀ call ∈ calls, call.keywords = keywords ∧ call.stream.atEnd = false ∧
        call.Accounted tokens.length) ∧
      program.commands.length + program.errors.length = calls.length ∧
      (keywords.Canonical →
        final.stream.position = tokens.findIdx (fun t => t.shape = .ending) ∧
        ∀ d ∈ program.errors, ¬ Unexpected d.cause.message ∧ ¬ Unexpected d.message) ∧
      ∀ d ∈ program.errors.dropLast, ¬ Unexpected d.message := by
  intro program final
  have within : (Reader.ofTokens keywords tokens).Within keywords tokens := ⟨rfl, .refl _⟩
  obtain ⟨calls, loops⟩ := Reader.loops_readAll (.ofTokens keywords tokens)
  obtain ⟨called, last⟩ := loops.calls_within within
  obtain ⟨added, errors, expected⟩ := loops.unexpected_last
  refine ⟨rfl, rfl, calls, loops, ?_, ?_, ?_, ?_⟩
  · intro call member
    obtain ⟨inside, more⟩ := called call member
    exact ⟨inside.keywords, more, inside.accounted more⟩
  · exact loops.count
  · intro canonical
    refine ⟨position_eq_findIdx last.passes (loops.reaches_end within canonical), ?_⟩
    intro d member
    have sensible := canonical.expected (.ofList tokens) d member
    exact ⟨sensible.wording, Diagnostic.wording (.inl sensible)⟩
  · have same : program.errors = added := errors
    rw [same]
    exact expected

private theorem standard_canonical : Keywords.standard.Canonical := by
  intro word kind found
  have all : ∀ entry ∈ Keywords.standard, entry.2.isCanonical = true := by decide
  obtain ⟨before, after, split, -⟩ := List.lookup_eq_some_iff.mp found
  exact all (word, kind) (by simp [split])

/-- A command, a bracket that closes nothing, an ending, and a command that is not read. -/
private def endedTokens : List Token :=
  [⟨.word, "PU", 1, 1⟩, ⟨.closing, "]", 1, 4⟩, ⟨.ending, "EOF", 0, 0⟩, ⟨.word, "PD", 2, 1⟩]

/-- The words that every program may use stand for commands, and with them a reading stops at the
ending among its tokens. -/
theorem reading_stops_at_ending :
    Keywords.standard.Canonical ∧
      (Reader.ofTokens .standard endedTokens).readAll.2.stream.position = 2 := by
  obtain ⟨-, -, calls, -, -, -, canonical, -⟩ := reading_is_accounted .standard endedTokens
  have ending : endedTokens.findIdx (fun t => t.shape = .ending) = 2 := by decide
  exact ⟨standard_canonical, (canonical standard_canonical).1.trans ending⟩

end TurtleScript
