import TurtleScript.Proofs.LongNumbers
import TurtleScript.Proofs.Meaning
import TurtleScript.Proofs.Reading

/-!
The contract between programs and engines. Whatever tokens and keywords are read, with complaints or
without, the commands that come out are ones that an engine can flatten and run. The reader never
looks at the commands of a body to see that there are any: it looks at the tokens, and it is the
steps between that make one imply the other. A run of such commands does not break the contract,
whatever is done to its engine while it is suspended; only an observer that applies a command of its
own can.
-/
namespace TurtleScript

/-! ## Proper commands -/

/-- A command that an engine can run. -/
inductive Command.Proper : Command → Prop
  /-- A command with one number. -/
  | valued {kind : Kind} {value : Float} {line column : Int} (takesNumber : kind.takesNumber = true)
    (finite : value.isFinite = true) : Proper ⟨kind, some (.real value), [], line, column⟩
  /-- A command without an argument. -/
  | plain {kind : Kind} {line column : Int} (alone : kind.standsAlone = true) :
    Proper ⟨kind, none, [], line, column⟩
  /-- A repetition, in range and of something. -/
  | repeated {times : Int} {body : List Command} {line column : Int}
    (range : 1 ≤ times ∧ times ≤ 1000) (filled : body ≠ []) (inside : ∀ c ∈ body, Proper c) :
    Proper ⟨.repetition, some (.whole times), body, line, column⟩

/-- No number in a proper command is too long to be told. -/
theorem Command.Proper.short {c : Command} (proper : c.Proper) : ¬ c.Long := by
  intro long
  induction long with
  | value own beyond =>
    cases proper with
    | valued =>
      cases own
      exact beyond
    | plain => cases own
    | repeated range filled inside =>
      cases own
      exact beyond.not_count range
  | child first _ ih =>
    have member := List.mem_of_mem_take first
    cases proper with
    | valued | plain => cases member
    | repeated range filled inside => exact ih (inside _ member)

/-- A proper command that is a single step. -/
def Command.Primitive (c : Command) : Prop :=
  c.Proper ∧ c.kind ≠ .repetition

section Reading

variable {keywords : Keywords}

/-- A step gives a command or a complaint. -/
private theorem command_of_clean {step : Step} {later : List Step}
    (clean : diagnosticsOf (step :: later) = []) : ∃ c, step.outcome.command? = some c := by
  obtain ⟨outcome, passes, next⟩ := step
  cases outcome with
  | command c => exact ⟨c, rfl⟩
  | refusal | fault => cases clean

/-- Tokens that are read without a complaint give a command, unless there are none. -/
private theorem commandsOf_filled {body : List Token} (filled : body ≠ [])
    (unended : ∀ t ∈ body, t.shape ≠ .ending)
    (clean : diagnosticsOf (readSteps keywords (.ofList body)) = []) :
    commandsOf (readSteps keywords (.ofList body)) ≠ [] := by
  obtain ⟨first, others, rfl⟩ := List.exists_cons_of_ne_nil filled
  have more : (TokenStream.ofList (first :: others)).atEnd = false := by
    have unended := unended first (by simp)
    simpa [TokenStream.atEnd, TokenStream.current, TokenStream.ofList] using unended
  rw [readSteps_before_end keywords more] at clean ⊢
  obtain ⟨c, given⟩ := command_of_clean clean
  simp [commandsOf, given]

/-- Every command that is read is proper. The induction is on the tokens: those of a body have been
read before the repetition is made. -/
theorem readSteps_proper (keywords : Keywords) (s : TokenStream) :
    ∀ c ∈ commandsOf (readSteps keywords s), c.Proper := by
  have proper := readSteps_all keywords (fun step => ∀ c, step.outcome.command? = some c → c.Proper)
    (s := s) ?_
  · intro c member
    obtain ⟨step, present, given⟩ := List.mem_filterMap.mp member
    exact proper step present c given
  intro s _ inside c given
  have takes := firstStep_takes keywords s
  generalize firstStep keywords s = step at given takes
  cases takes with
  | refused | spoilt | faulted => cases given
  | valued takesNumber finite _ =>
    cases given
    exact .valued takesNumber finite
  | plain alone =>
    cases given
    exact .plain alone
  | repeated range filled unended shorter clean _ =>
    cases given
    refine .repeated range (commandsOf_filled filled unended clean) ?_
    intro c member
    obtain ⟨step, present, given⟩ := List.mem_filterMap.mp member
    exact inside _ shorter step present c given

end Reading

/-! ## Flattening -/

namespace Command

/-- What holds of all steps of each command holds of all their steps, and there are such. -/
theorem flattenAll_ok {holds : Command → Prop} (commands : List Command)
    (each : ∀ c ∈ commands, ∃ steps, c.flatten = .ok steps ∧ ∀ step ∈ steps, holds step) :
    ∃ steps, flattenAll commands = .ok steps ∧ ∀ step ∈ steps, holds step := by
  induction commands with
  | nil => exact ⟨[], rfl, nofun⟩
  | cons c rest ih =>
    obtain ⟨first, flat, fit⟩ := each c (by simp)
    obtain ⟨others, flatRest, fitRest⟩ := ih fun c member => each c (by simp [member])
    refine ⟨first ++ others, by simp [flattenAll, flat, flatRest], ?_⟩
    intro step member
    rcases List.mem_append.mp member with early | late
    · exact fit step early
    · exact fitRest step late

/-- A proper command flattens into proper steps. -/
theorem Proper.flatten_ok {c : Command} (proper : c.Proper) :
    ∃ steps, c.flatten = .ok steps ∧ ∀ step ∈ steps, step.Primitive := by
  induction proper with
  | @valued kind value line column takesNumber finite =>
    have single : kind ≠ .repetition := by
      rintro rfl
      cases takesNumber
    refine ⟨[⟨kind, some (.real value), [], line, column⟩], by simp [flatten, single], ?_⟩
    intro step member
    rw [List.mem_singleton.mp member]
    exact ⟨.valued takesNumber finite, single⟩
  | @plain kind line column alone =>
    have single : kind ≠ .repetition := by
      rintro rfl
      cases alone
    refine ⟨[⟨kind, none, [], line, column⟩], by simp [flatten, single], ?_⟩
    intro step member
    rw [List.mem_singleton.mp member]
    exact ⟨.plain alone, single⟩
  | @repeated times body line column range filled _ ih =>
    obtain ⟨steps, flat, fit⟩ := flattenAll_ok body ih
    have counted : repeatCount? (some (.whole times)) body = some times.toNat := by
      simp [repeatCount?, countAllowed, leastCount, greatestCount, range, filled]
    refine ⟨(List.replicate times.toNat steps).flatten, by simp [flatten, counted, flat], ?_⟩
    intro step member
    obtain ⟨copy, copied, inside⟩ := List.mem_flatten.mp member
    rw [List.eq_of_mem_replicate copied] at inside
    exact fit step inside

end Command

/-! ## Steps of a run -/

/-- The error does not say that a command breaks the contract. -/
def EngineError.Lawful (error : EngineError) : Prop := error.offender? = none

namespace Engine

variable {e : Engine} {c : Command} {error : EngineError}

/-- A movement that has a value leads somewhere, or a number cannot be used. -/
private theorem destination_lawful {value : Number} (given : c.value = some value)
    (refused : e.destination c = .error error) : error.Lawful := by
  simp only [destination, given] at refused
  repeat' split at refused
  all_goals cases refused
  all_goals rfl

private theorem turnEffect_lawful {value : Number} {turned : Float → Float}
    (given : c.value = some value) (refused : turnEffect c turned = .error error) :
    error.Lawful := by
  simp only [turnEffect, given] at refused
  split at refused
  all_goals cases refused
  rfl

/-- A proper step is not refused because of the contract. -/
theorem effect_lawful (primitive : c.Primitive) (refused : e.effect c = .error error) :
    error.Lawful := by
  obtain ⟨proper, single⟩ := primitive
  cases proper with
  | @valued kind value line column takesNumber finite =>
    unfold effect at refused
    cases kind with
    | forward | back =>
      simp only at refused
      split at refused
      · rename_i leads
        cases refused
        exact destination_lawful rfl leads
      · cases refused
    | left | right => exact turnEffect_lawful rfl refused
    | color =>
      simp only at refused
      split at refused
      all_goals cases refused
      rfl
    | penUp | penDown | clear | repetition | other => cases takesNumber
  | @plain kind line column alone =>
    cases kind with
    | penUp | penDown | clear => cases refused
    | forward | back | left | right | color | repetition | other => cases alone
  | repeated => exact absurd rfl single

private theorem obstacleAhead_lawful {obstacles : List Obstacle} (primitive : c.Primitive)
    (refused : e.obstacleAhead c obstacles = .error error) : error.Lawful := by
  obtain ⟨moves, leads⟩ := obstacleAhead_error_at refused
  obtain ⟨proper, single⟩ := primitive
  cases proper with
  | valued => exact destination_lawful rfl leads
  | @plain kind line column alone =>
    cases kind with
    | penUp | penDown | clear => cases moves
    | forward | back | left | right | color | repetition | other => cases alone
  | repeated => exact absurd rfl single

/-- A run of proper steps does not break the contract of its own. -/
theorem verdict_lawful {run : Run} (fit : ∀ c ∈ run.rest, c.Primitive)
    (verdict : e.verdict run = .breaks error) : error.Lawful := by
  obtain ⟨c, rest, left, ahead | found⟩ := verdict_breaks_at verdict
  · exact obstacleAhead_lawful (fit c (by simp [left])) ahead
  · exact effect_lawful (fit c (by simp [left])) found

end Engine

/-! ## Observers -/

/-- An observer has a response that applies a command. -/
def Observers.Applies (o : Observers) (c : Command) : Prop :=
  ∃ entry ∈ o.reactions, ∃ reaction ∈ entry.2, reaction.response = .apply c

/-- A response that applies no command but such ones. -/
def Response.AppliesOnly (holds : Command → Prop) (r : Response) : Prop :=
  ∀ c, r = .apply c → holds c

theorem Observers.gives_own (o : Observers) : o.Give (·.AppliesOnly o.Applies) := by
  intro entry present reaction inside c applies
  exact ⟨entry, present, reaction, inside, applies⟩

/-- An error that no command but such ones can be blamed for. -/
def EngineError.Blames (holds : Command → Prop) (error : EngineError) : Prop :=
  ∀ c, error.offender? = some c → holds c

namespace Engine

variable {holds : Command → Prop}

private theorem respond_blames {tell : Engine → Result Unit} {e : Engine} (name : String)
    {r : Response} (allowed : r.AppliesOnly holds)
    (told : ∀ e, e.observers.Give (·.AppliesOnly holds) →
      ∀ error, (tell e).1 = .error error → error.Blames holds)
    (give : e.observers.Give (·.AppliesOnly holds)) (error : EngineError)
    (failed : (e.respond tell name r).1 = .error error) : error.Blames holds := by
  cases r with
  | stop | color | unsubscribe | subscribe | start => cases failed
  | fail | misuse =>
    cases failed
    exact nofun
  | reset start =>
    simp only [respond, resetWith] at failed
    split at failed
    · cases failed
      exact nofun
    · exact told (e.restart _) give error failed
  | apply command =>
    simp only [respond] at failed
    split at failed
    · rename_i refused
      cases failed
      intro c blamed
      obtain rfl | rfl | ⟨_, rfl⟩ := effect_error (apply_eq_error refused)
      · cases blamed
        exact allowed _ rfl
      · cases blamed
        exact allowed _ rfl
      · cases blamed
    · cases failed

/-- A notification breaks the contract only with a command that an observer applies. -/
theorem notify_blames {e : Engine} (give : e.observers.Give (·.AppliesOnly holds)) :
    (∀ error, e.notify.1 = .error error → error.Blames holds) ∧
      e.notify.2.observers.Give (·.AppliesOnly holds) := by
  have borne : Borne (·.AppliesOnly holds)
      (fun _ result => ∀ error, result.1 = .error error → error.Blames holds) :=
    { still := fun _ => nofun
      next := fun _ later => later
      observers := fun _ _ => nofun
      response := fun name allowed told give => respond_blames name allowed told give }
  exact notify_keeps borne give

/-! ## Runs -/

/-- A run that is suspended has proper steps left, and one that failed blames only such commands. -/
def Abides (holds : Command → Prop) : Progress → Prop
  | .suspended run _ => ∀ c ∈ run.rest, c.Primitive
  | .returned _ => True
  | .raised error => error.Blames holds

variable {e : Engine}

private theorem finish_abides (give : e.observers.Give (·.AppliesOnly holds)) (status : Status)
    (step : Nat) (hit : Option Obstacle) :
    Abides holds (e.finish status step hit).1 ∧
      (e.finish status step hit).2.observers.Give (·.AppliesOnly holds) := by
  have ended : (e.record status step hit).idle.observers.Give (·.AppliesOnly holds) := give
  obtain ⟨blames, gives⟩ := notify_blames ended
  unfold finish
  cases told : (e.record status step hit).idle.notify with
  | mk answer after =>
    rw [told] at blames gives
    cases answer with
    | error error => exact ⟨blames error rfl, gives⟩
    | ok _ => exact ⟨trivial, gives⟩

/-- A resumption of a run of proper steps abides by the contract, and leaves its observers no other
commands to apply than they had. -/
theorem resume_abides {run : Run} (fit : ∀ c ∈ run.rest, c.Primitive)
    (give : e.observers.Give (·.AppliesOnly holds)) :
    Abides holds (e.resume run).1 ∧ (e.resume run).2.observers.Give (·.AppliesOnly holds) := by
  rw [resume_eq]
  cases verdict : e.verdict run with
  | ends status hit => exact finish_abides give status run.index hit
  | breaks error =>
    have lawful : error.offender? = none := verdict_lawful fit verdict
    refine ⟨?_, give⟩
    intro c blamed
    rw [lawful] at blamed
    cases blamed
  | commits c effect rest =>
    obtain ⟨left, -⟩ := verdict_commits verdict
    have stepped : (e.stepped run.index effect).observers.Give (·.AppliesOnly holds) := by
      simpa [Engine.stepped] using give
    obtain ⟨blames, gives⟩ := notify_blames stepped
    simp only [carryOut]
    cases told : (e.stepped run.index effect).notify with
    | mk answer after =>
      rw [told] at blames gives
      cases answer with
      | error error => exact ⟨blames error rfl, gives⟩
      | ok _ => exact ⟨fun c member => fit c (by simp [left, member]), gives⟩

/-- A run that abides by the contract goes on to do so, however often it is resumed. -/
private theorem drive_abides (count : Nat) (stretch : Stretch) (e : Engine)
    (abides : Abides holds stretch.progress) (give : e.observers.Give (·.AppliesOnly holds)) :
    Abides holds (drive count stretch e).1.progress := by
  induction count generalizing stretch e with
  | zero =>
    obtain ⟨progress, sleeps, delay⟩ := stretch
    cases progress <;> exact abides
  | succ more ih =>
    obtain ⟨progress, sleeps, delay⟩ := stretch
    cases progress with
    | returned | raised => exact abides
    | suspended run wait =>
      obtain ⟨resumed, gives⟩ := resume_abides abides give
      exact ih _ _ resumed gives

/-- Where a run is after it was started on an idle engine without a budget, or resumed: whoever
holds it may resume it on an engine that others have changed in any way. -/
inductive Drives (commands : List Command) (obstacles : List Obstacle) : Engine → Progress → Prop
  | started {e : Engine} (idle : e.active = false) (unlimited : e.budget = none) :
    Drives commands obstacles e (e.start commands obstacles).1
  | resumed {e other : Engine} {run : Run} {delay : Float}
    (suspended : Drives commands obstacles e (.suspended run delay)) :
    Drives commands obstacles other (other.resume run).1

section Programs

variable {commands steps : List Command} (obstacles : List Obstacle)
  (flat : Command.flattenAll commands = .ok steps) (fit : ∀ c ∈ steps, c.Primitive)

include flat fit

/-- A program of proper commands is accepted, and its first step abides by the contract. -/
private theorem start_abides (idle : e.active = false) (unlimited : e.budget = none)
    (give : e.observers.Give (·.AppliesOnly holds)) :
    Abides holds (e.start commands obstacles).1 ∧
      (e.start commands obstacles).2.observers.Give (·.AppliesOnly holds) := by
  simp only [start, accept_idle idle unlimited flat]
  exact resume_abides (e := e.begin steps) fit give

/-- The run of a program abides by the contract wherever it is. The induction is on its life so
far; of the engine that it was suspended on nothing is needed. -/
theorem Drives.abides {progress : Progress} (drives : Drives commands obstacles e progress) :
    Abides e.observers.Applies progress := by
  induction drives with
  | @started e idle unlimited =>
    exact (start_abides obstacles flat fit idle unlimited e.observers.gives_own).1
  | @resumed _ other _ _ _ abides => exact (resume_abides abides other.observers.gives_own).1

theorem execute_abides (idle : e.active = false) (unlimited : e.budget = none) :
    Abides e.observers.Applies (e.execute commands obstacles).1.progress := by
  obtain ⟨abides, gives⟩ :=
    start_abides obstacles flat fit idle unlimited e.observers.gives_own
  exact drive_abides _ ⟨_, 0, none⟩ _ abides gives

end Programs

end Engine

/-! ## The contract -/

/-- Every command that is read from tokens is proper, whatever the tokens and the keywords are and
whether there are complaints or not: it has the finite number it needs, or none; or it repeats
something, in range. So the program can be flattened, no step of it is refused by any engine because
of the contract, and an idle engine without a budget never breaks the contract when it starts or
resumes the program or runs it to its end, whatever happens in between. If it raises a broken
contract, then one of its own observers applies the command that is to blame. -/
theorem reading_meets_contract (keywords : Keywords) (tokens : List Token) :
    let commands := (readTokens keywords tokens).commands
    (∀ c ∈ commands, c.Proper) ∧
    ∃ steps, Command.flattenAll commands = .ok steps ∧
      (∀ c ∈ steps, ∀ (e : Engine) (error : EngineError),
        e.apply c = .error error → error.offender? = none) ∧
      ∀ (obstacles : List Obstacle) (e : Engine) (error : EngineError) (c : Command),
        error.offender? = some c →
        (Engine.Drives commands obstacles e (.raised error) → e.observers.Applies c) ∧
        (e.active = false → e.budget = none →
          (e.execute commands obstacles).1.progress = .raised error → e.observers.Applies c) := by
  intro commands
  have proper : ∀ c ∈ commands, c.Proper := readSteps_proper keywords (.ofList tokens)
  obtain ⟨steps, flat, fit⟩ :=
    Command.flattenAll_ok commands fun c member => (proper c member).flatten_ok
  refine ⟨proper, steps, flat, ?_, ?_⟩
  · intro c member e error refused
    exact Engine.effect_lawful (fit c member) (Engine.apply_eq_error refused)
  · intro obstacles e error c blamed
    refine ⟨?_, ?_⟩
    · intro drives
      exact Engine.Drives.abides obstacles flat fit drives c blamed
    · intro idle unlimited raised
      have abides := Engine.execute_abides obstacles flat fit idle unlimited
      rw [raised] at abides
      exact abides c blamed

end TurtleScript
