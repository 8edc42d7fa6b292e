import TurtleScript.Proofs.Results

/-!
Flattening, counting and the budget. A program is counted without being written out, by a recursion
of its own that takes bad counts as they come, and only then flattened, which refuses them. Where
flattening succeeds the two agree, so the budget bounds every run that starts. What is refused is
refused before the engine is touched.
-/
namespace TurtleScript

namespace Command

/-! ## Repetitions -/

/-- A repetition that can be run: its value is a whole number in range, and it has a body. -/
def Repeatable (c : Command) : Prop :=
  c.body ≠ [] ∧ ∃ count : Int, c.value = some (.whole count) ∧ 1 ≤ count ∧ count ≤ 1000

theorem repeatCount?_isSome_iff (c : Command) :
    (repeatCount? c.value c.body).isSome = true ↔ c.Repeatable := by
  unfold repeatCount? Repeatable
  split
  · rename_i count given
    have allowed : countAllowed count = true ↔ 1 ≤ count ∧ count ≤ 1000 := by
      rw [countAllowed, Bool.and_eq_true, decide_eq_true_eq, decide_eq_true_eq]
      rfl
    by_cases inRange : countAllowed count = true
    · have range := allowed.mp inRange
      simp [given, inRange, range]
    · simp [given, inRange, ← allowed]
  · rename_i other
    simp only [Option.isSome_none, Bool.false_eq_true, false_iff]
    rintro ⟨-, count, given, -⟩
    exact other count given

instance : DecidablePred Repeatable := fun c =>
  decidable_of_iff _ c.repeatCount?_isSome_iff

theorem Repeatable.count {c : Command} (repeatable : c.Repeatable) :
    ∃ count : Int, c.value = some (.whole count) ∧ 1 ≤ count ∧
      repeatCount? c.value c.body = some count.toNat := by
  obtain ⟨filled, count, given, least, greatest⟩ := repeatable
  refine ⟨count, given, least, ?_⟩
  simp [repeatCount?, given, countAllowed, leastCount, greatestCount, least, greatest, filled]

mutual

/-- The repetitions that flattening meets in a command, each before those in its body. -/
def repetitions : Command → List Command
  | ⟨kind, value, body, line, column⟩ =>
    if kind = .repetition then ⟨kind, value, body, line, column⟩ :: repetitionsAll body else []

/-- The repetitions that flattening meets in commands, in order. -/
def repetitionsAll : List Command → List Command
  | [] => []
  | c :: rest => repetitions c ++ repetitionsAll rest

end

mutual

/-- A command written out: the body of a repetition stands in its place as often as its value
says. -/
def expand : Command → List Command
  | ⟨kind, value, body, line, column⟩ =>
    if kind = .repetition then
      match value with
      | some (.whole count) => (List.replicate count.toNat (expandAll body)).flatten
      | _ => []
    else [⟨kind, value, body, line, column⟩]

/-- Commands written out, one after the other. -/
def expandAll : List Command → List Command
  | [] => []
  | c :: rest => expand c ++ expandAll rest

end

/-- The first repetition of a list that cannot be run. -/
def firstMalformed? (repetitions : List Command) : Option Command :=
  repetitions.find? fun c => !decide c.Repeatable

theorem firstMalformed?_eq_none_iff {repetitions : List Command} :
    firstMalformed? repetitions = none ↔ ∀ c ∈ repetitions, c.Repeatable := by
  simp [firstMalformed?, List.find?_eq_none]

/-! ## Flattening -/

/-- What flattening comes to, told by the repetitions that it meets. -/
def writtenOut (repetitions steps : List Command) : Except Command (List Command) :=
  match firstMalformed? repetitions with
  | some bad => .error bad
  | none => .ok steps

mutual

/-- Flattening a command writes it out, unless it meets a repetition that cannot be run: then it
names the first one. The induction is on the tree. -/
theorem flatten_eq : (c : Command) → c.flatten = writtenOut c.repetitions c.expand
  | ⟨kind, value, body, line, column⟩ => by
    by_cases repetition : kind = .repetition
    · let own : Command := ⟨kind, value, body, line, column⟩
      have inside := flattenAll_eq body
      by_cases repeatable : own.Repeatable
      · obtain ⟨count, given, -, counted⟩ := repeatable.count
        have passed : firstMalformed? (own :: repetitionsAll body) =
            firstMalformed? (repetitionsAll body) := by
          simp [firstMalformed?, repeatable]
        have value_eq : value = some (.whole count) := given
        simp only [flatten, repetitions, expand, repetition, if_true]
        rw [show repeatCount? value body = some count.toNat from counted, inside]
        unfold writtenOut
        rw [← repetition, passed]
        cases firstMalformed? (repetitionsAll body) <;> simp [value_eq]
      · have uncounted : repeatCount? value body = none := by
          rw [← Option.not_isSome_iff_eq_none, own.repeatCount?_isSome_iff]
          exact repeatable
        have stopped : firstMalformed? (own :: repetitionsAll body) = some own := by
          simp [firstMalformed?, repeatable]
        simp only [flatten, repetitions, repetition, if_true, uncounted]
        unfold writtenOut
        rw [← repetition, stopped]
    · simp [flatten, repetitions, expand, repetition, writtenOut, firstMalformed?]

/-- Flattening commands writes them out, unless it meets a repetition that cannot be run. -/
theorem flattenAll_eq : (commands : List Command) →
    flattenAll commands = writtenOut (repetitionsAll commands) (expandAll commands)
  | [] => rfl
  | c :: rest => by
    simp only [flattenAll, repetitionsAll, expandAll]
    rw [flatten_eq c, flattenAll_eq rest]
    unfold writtenOut firstMalformed?
    rw [List.find?_append]
    cases (repetitions c).find? fun c => !decide c.Repeatable with
    | some bad => rfl
    | none => cases (repetitionsAll rest).find? fun c => !decide c.Repeatable <;> rfl

end

theorem flattenAll_error_iff (commands : List Command) (bad : Command) :
    flattenAll commands = .error bad ↔
      firstMalformed? (repetitionsAll commands) = some bad := by
  rw [flattenAll_eq]
  unfold writtenOut
  cases firstMalformed? (repetitionsAll commands) <;> simp

theorem flattenAll_ok_iff (commands steps : List Command) :
    flattenAll commands = .ok steps ↔
      (∀ c ∈ repetitionsAll commands, c.Repeatable) ∧ steps = expandAll commands := by
  rw [flattenAll_eq, ← firstMalformed?_eq_none_iff]
  unfold writtenOut
  cases firstMalformed? (repetitionsAll commands) <;> simp [eq_comm]

/-! ## What is written out -/

mutual

theorem expand_single : (c : Command) → ∀ step ∈ c.expand, step.isRepeat = false
  | ⟨kind, value, body, line, column⟩ => by
    intro step member
    unfold expand at member
    split at member
    · split at member
      · obtain ⟨copy, copied, inside⟩ := List.mem_flatten.mp member
        rw [List.eq_of_mem_replicate copied] at inside
        exact expandAll_single body step inside
      · cases member
    · rename_i primitive
      rw [List.mem_singleton.mp member]
      simpa [isRepeat] using primitive

/-- Commands that are written out hold no repetition. -/
theorem expandAll_single : (commands : List Command) →
    ∀ step ∈ expandAll commands, step.isRepeat = false
  | [] => nofun
  | c :: rest => by
    intro step member
    rcases List.mem_append.mp member with first | later
    · exact expand_single c step first
    · exact expandAll_single rest step later

end

mutual

/-- Where all repetitions can be run, counting a command gives the number of its steps. The
induction is on the tree: a body counts as often as it is copied. -/
theorem countSteps_eq : (c : Command) → (∀ r ∈ c.repetitions, r.Repeatable) →
    c.countSteps = .ok c.expand.length
  | ⟨kind, value, body, line, column⟩, repeatable => by
    by_cases repetition : kind = .repetition
    · simp only [repetitions, repetition, if_true, List.mem_cons, forall_eq_or_imp] at repeatable
      obtain ⟨count, given, least, -⟩ := repeatable.1.count
      have value_eq : value = some (.whole count) := given
      have inside := countAll_eq body repeatable.2
      have factor : countFactor (some (.whole count)) = .ok count := by
        have nonzero : count ≠ 0 := by omega
        simp [countFactor, Number.isZero, nonzero, Number.trunc, Number.wholeBy]
      have copies : ((count.toNat * (expandAll body).length : Nat) : Int) =
          count * (expandAll body).length := by
        rw [Int.natCast_mul, Int.toNat_of_nonneg (by omega)]
      simp [countSteps, expand, repetition, factor, inside, value_eq, copies]
    · simp [countSteps, expand, repetition]

theorem countAll_eq : (commands : List Command) →
    (∀ r ∈ repetitionsAll commands, r.Repeatable) →
    countAll commands = .ok (expandAll commands).length
  | [], _ => rfl
  | c :: rest, repeatable => by
    simp only [repetitionsAll, List.mem_append] at repeatable
    have first := countSteps_eq c fun r member => repeatable r (.inl member)
    have later := countAll_eq rest fun r member => repeatable r (.inr member)
    simp [countAll, expandAll, first, later]

end

/-- Counting agrees with flattening where flattening succeeds. -/
theorem countAll_of_flat {commands steps : List Command}
    (flat : flattenAll commands = .ok steps) : countAll commands = .ok steps.length := by
  obtain ⟨repeatable, rfl⟩ := (flattenAll_ok_iff commands steps).mp flat
  exact countAll_eq commands repeatable

end Command

/-! ## The budget -/

namespace Engine

variable {e : Engine} {commands steps : List Command}

/-- A program that can be flattened is accepted by an idle engine exactly if its steps are within
the budget. -/
theorem accept_flat (flat : Command.flattenAll commands = .ok steps) :
    e.accept commands =
      if e.active then .error .inProgress
      else
        match e.budget with
        | none => .ok steps
        | some budget =>
          if (steps.length : Int) > budget then .error (.beyondBudget steps.length budget)
          else .ok steps := by
  have counted := Command.countAll_of_flat flat
  have flattened : flatten commands = .ok steps := flatten_ok_iff.mpr flat
  unfold accept checkBudget
  cases e.active with
  | true => rfl
  | false =>
    cases e.budget with
    | none => exact flattened
    | some budget =>
      by_cases beyond : (steps.length : Int) > budget
      · simp [counted, beyond]
      · simp only [counted, beyond, flattened, if_false, Bool.false_eq_true]

theorem accepted_within {budget : Int} (limited : e.budget = some budget)
    (accepted : e.accept commands = .ok steps) : (steps.length : Int) ≤ budget := by
  rw [accept_flat (flat_of_accept accepted), limited] at accepted
  split at accepted
  · cases accepted
  · dsimp only at accepted
    split at accepted
    · cases accepted
    · omega

/-- A refusal for the number of steps names it, and the budget that it is beyond. -/
theorem refused_beyond {budget count named : Int} (limited : e.budget = some budget)
    (flat : Command.flattenAll commands = .ok steps)
    (refused : e.accept commands = .error (.overBudget count named)) :
    count = steps.length ∧ named = budget ∧ budget < count := by
  rw [accept_flat flat, limited] at refused
  split at refused
  · cases refused
  · dsimp only at refused
    split at refused
    · rename_i beyond
      rw [Except.error.injEq] at refused
      rcases EngineError.beyondBudget_cases steps.length budget with ⟨-, told⟩ | ⟨-, told⟩
      · rw [told] at refused
        cases refused
      · rw [told] at refused
        cases refused
        exact ⟨rfl, rfl, beyond⟩
    · cases refused

/-- Flattening a program fails for the first repetition that cannot be run: by a refusal that names
it, or by the error of a number in it that is too long to be told. -/
theorem flatten_error {error : EngineError} :
    flatten commands = .error error ↔
      ∃ bad, Command.firstMalformed? (Command.repetitionsAll commands) = some bad ∧
        (bad.Long ∧ error = .number .tooLong ∨
          ¬ bad.Long ∧ ∃ shown, bad.shown = .ok shown ∧ error = .malformedRepeat bad shown) := by
  simp only [flatten_error_iff, Command.flattenAll_error_iff]
  refine exists_congr fun bad => and_congr_right fun _ => ?_
  rcases EngineError.malformed_cases bad with ⟨long, told⟩ | ⟨short, shown, text, told⟩
  · simp [told, long]
  · simp [told, short, text]

end Engine

namespace Session

variable {s : Session} {commands steps : List Command}

private theorem pursued_totalSteps {operation : Operation} {first : Resumption} {more : Nat}
    (pursued : s.pursuit? operation = some (first, more)) :
    (s.perform operation).2.engine.totalSteps = first.engine.totalSteps := by
  cases s.perform_does operation with
  | pursues found left =>
    rw [pursued] at found
    cases found
    rw [left]
    exact (Engine.pursue_result more first.engine first.run).2
  | cancels _ cancel _ =>
    subst cancel
    cases pursued
  | touches unpursued _ _ _ =>
    rw [pursued] at unpursued
    cases unpursued

/-- A run that is started counts the steps of its program, however far it is taken. -/
theorem accepted_totalSteps (accepted : s.engine.accept commands = .ok steps)
    (obstacles : List Obstacle) :
    (s.perform (.start commands obstacles)).2.engine.totalSteps = steps.length ∧
      (s.perform (.execute commands obstacles)).2.engine.totalSteps = steps.length := by
  let first : Resumption := ⟨s.engine.begin steps, ⟨steps, 0, obstacles⟩⟩
  have started : s.pursuit? (.start commands obstacles) = some (first, 0) := by
    simp only [pursuit?, accepted, first]
  have executed : s.pursuit? (.execute commands obstacles) = some (first, steps.length) := by
    simp only [pursuit?, accepted, first]
  exact ⟨pursued_totalSteps started, pursued_totalSteps executed⟩

/-- A refused program changes nothing, and nobody is told of it. -/
theorem perform_not_accepted {error : EngineError}
    (refused : s.engine.accept commands = .error error) (obstacles : List Obstacle) :
    s.perform (.start commands obstacles) = (.failed error, s) ∧
      s.perform (.execute commands obstacles) = (.failed error, s) := by
  obtain ⟨engine, run⟩ := s
  simp only [perform, Engine.startTimes_refused obstacles 0 refused,
    Engine.execute_refused obstacles refused, started]
  cases run <;> exact ⟨rfl, rfl⟩

end Session

/-! ## Counting agrees with flattening -/

/-- Flattening a program succeeds exactly if every repetition that it meets has a whole count from 1
to 1000 and a body. Else it names the first that does not, outer ones before those inside, except
where that one cannot be told because a number in it is too long. It leaves the program written out,
with no repetition in it, and counting gives its length. So on an engine with a budget every run
that starts is within it, and a refusal for the number of steps names the length of a program that
can be flattened. A program that is refused, for whatever reason, leaves the session and what its
observers have been told as they were. -/
theorem budget_is_exact (commands : List Command) :
    ((∃ steps, Engine.flatten commands = .ok steps) ↔
      ∀ c ∈ Command.repetitionsAll commands, c.Repeatable) ∧
    (∀ error, Engine.flatten commands = .error error ↔
      ∃ bad, Command.firstMalformed? (Command.repetitionsAll commands) = some bad ∧
        (bad.Long ∧ error = .number .tooLong ∨
          ¬ bad.Long ∧ ∃ shown, bad.shown = .ok shown ∧ error = .malformedRepeat bad shown)) ∧
    (∀ steps, Engine.flatten commands = .ok steps →
      steps = Command.expandAll commands ∧ (∀ c ∈ steps, c.isRepeat = false) ∧
        Command.countAll commands = .ok steps.length) ∧
    (∀ (s : Session) (budget : Int), s.engine.budget = some budget →
      (∀ steps, s.engine.accept commands = .ok steps →
        (steps.length : Int) ≤ budget ∧ ∀ obstacles,
          (s.perform (.start commands obstacles)).2.engine.totalSteps = steps.length ∧
          (s.perform (.execute commands obstacles)).2.engine.totalSteps = steps.length) ∧
      ∀ steps count named, Engine.flatten commands = .ok steps →
        s.engine.accept commands = .error (.overBudget count named) →
        count = steps.length ∧ named = budget ∧ budget < count) ∧
    ∀ (s : Session) error, s.engine.accept commands = .error error → ∀ obstacles,
      s.perform (.start commands obstacles) = (.failed error, s) ∧
        s.perform (.execute commands obstacles) = (.failed error, s) := by
  refine ⟨?_, fun error => Engine.flatten_error, ?_, ?_, ?_⟩
  · simp only [Engine.flatten_ok_iff, Command.flattenAll_ok_iff]
    exact ⟨fun ⟨_, repeatable, _⟩ => repeatable, fun repeatable => ⟨_, repeatable, rfl⟩⟩
  · intro steps flattened
    have flat := Engine.flatten_ok_iff.mp flattened
    obtain ⟨-, rfl⟩ := (Command.flattenAll_ok_iff commands steps).mp flat
    exact ⟨rfl, Command.expandAll_single commands, Command.countAll_of_flat flat⟩
  · intro s budget limited
    refine ⟨?_, fun steps count named flattened refused => ?_⟩
    · intro steps accepted
      exact ⟨Engine.accepted_within limited accepted, Session.accepted_totalSteps accepted⟩
    · exact Engine.refused_beyond limited (Engine.flatten_ok_iff.mp flattened) refused
  · intro s error refused obstacles
    exact Session.perform_not_accepted refused obstacles

/-- A repetition whose count is too long to be told cannot be run, and flattening it names no
command but ends by the error of the number. -/
theorem long_count_not_named :
    let often : Command := ⟨.repetition, some .leastLong, [], 0, 0⟩
    ¬ often.Repeatable ∧ Engine.flatten [often] = .error (.number .tooLong) := by
  intro often
  have long : often.Long := .value rfl Number.leastLong_long
  have unrepeatable : ¬ often.Repeatable := fun repeatable => repeatable.1 rfl
  have first : Command.firstMalformed? (Command.repetitionsAll [often]) = some often := by
    have met : Command.repetitionsAll [often] = [often] := rfl
    rw [met, Command.firstMalformed?]
    simp [unrepeatable]
  exact ⟨unrepeatable, Engine.flatten_error.mpr ⟨often, first, .inl ⟨long, rfl⟩⟩⟩

private def backwards : Command :=
  ⟨.repetition, some (.whole (-5)), [⟨.penUp, none, [], 1, 13⟩], 1, 1⟩

/-- A negative count lowers the total, but a program with one is never flattened. -/
example : Command.countAll [backwards, ⟨.penDown, none, [], 1, 18⟩] = .ok (-4) ∧
    Command.flattenAll [backwards, ⟨.penDown, none, [], 1, 18⟩] = .error backwards :=
  ⟨rfl, rfl⟩

end TurtleScript
