import TurtleScript.Engine.Run
import TurtleScript.Proofs.Notification

/-!
What one resumption of a run comes to. A verdict is found before anyone is told: the run ends, its
step cannot be made, or a command is committed. What follows from each is stated once, and what a
run does over many resumptions is derived from it.
-/
namespace TurtleScript

/-- What the next resumption of a run comes to, before anyone is told. -/
inductive Verdict where
  /-- The run ends with a result. -/
  | ends (status : Status) (hit : Option Obstacle)
  /-- The step cannot be made. -/
  | breaks (error : EngineError)
  /-- The command is committed, and these are left. -/
  | commits (command : Command) (effect : Engine.Effect) (rest : List Command)

namespace Engine

/-- The verdict on a run. A run that was asked to stop ends before anything else is looked at, and
an obstacle is looked for before the edge of the canvas. -/
def verdict (e : Engine) (run : Run) : Verdict :=
  match run.rest with
  | [] => .ends (if e.running then .completed else .stopped) none
  | c :: rest =>
    if e.running then
      match e.obstacleAhead c run.obstacles with
      | .error error => .breaks error
      | .ok (some hit) => .ends .obstacle (some hit)
      | .ok none =>
        match e.effect c with
        | .error error => .breaks error
        | .ok .blocked => .ends .boundary none
        | .ok effect => .commits c effect rest
    else .ends .stopped none

/-- The engine after the step of a number was made, before anyone is told. -/
def stepped (e : Engine) (index : Nat) (effect : Effect) : Engine :=
  { e with currentStep := index }.commit effect

/-- What becomes of a run under a verdict. -/
def carryOut (e : Engine) (run : Run) : Verdict → Progress × Engine
  | .ends status hit => e.finish status run.index hit
  | .breaks error => e.fail error
  | .commits _ effect rest =>
    match (e.stepped run.index effect).notify with
    | (.error error, told) => told.fail error
    | (.ok _, told) => (.suspended ⟨rest, run.index + 1, run.obstacles⟩ told.stepDelay, told)

/-- A resumption carries out its verdict. -/
theorem resume_eq (e : Engine) (run : Run) : e.resume run = e.carryOut run (e.verdict run) := by
  obtain ⟨rest, index, obstacles⟩ := run
  cases rest with
  | nil => rfl
  | cons c rest =>
    cases running : e.running with
    | false => simp [resume, verdict, carryOut, running]
    | true =>
      -- Neither what is ahead nor the effect depends on the number of the step.
      have ahead : { e with running := true, currentStep := index }.obstacleAhead c obstacles =
        e.obstacleAhead c obstacles := rfl
      have effects : { e with running := true, currentStep := index }.effect c = e.effect c := rfl
      simp only [resume, verdict, makeStep, running, if_true, ahead, effects]
      cases e.obstacleAhead c obstacles with
      | error error => rfl
      | ok hit =>
        cases hit with
        | some hit => rfl
        | none =>
          cases e.effect c with
          | error error => rfl
          | ok effect =>
            simp only [carryOut, stepped, running]
            cases effect <;> rfl

/-! ## What a run leaves when it ends -/

theorem finish_engine (e : Engine) (status : Status) (step : Nat) (hit : Option Obstacle) :
    (e.finish status step hit).2 = (e.record status step hit).idle.notify.2 := by
  unfold finish
  split <;> (rename_i notified; rw [notified])

theorem cancel_engine (e : Engine) :
    e.cancel.2 = (e.record .stopped e.currentStep none).idle.notify.2 := by
  unfold cancel
  split <;> (rename_i notified; rw [notified])

/-- A run that has committed a command leaves what the observers make of it, and is over if one of
them fails. -/
theorem commits_engine (e : Engine) (run : Run) (c : Command) (effect : Effect)
    (rest : List Command) :
    let told := (e.stepped run.index effect).notify.2
    (e.carryOut run (.commits c effect rest)).2 = told ∨
      (e.carryOut run (.commits c effect rest)).2 = told.idle := by
  intro told
  simp only [carryOut]
  split
  · rename_i notified
    exact .inr (by simp [told, notified, fail])
  · rename_i notified
    exact .inl (by simp [told, notified])

/-! ## What a verdict says -/

section Verdicts

variable {e : Engine} {run : Run}

/-- A command is committed when the run goes on, nothing is in the way, and it can be done. -/
theorem verdict_commits {c : Command} {effect : Effect} {rest : List Command}
    (verdict : e.verdict run = .commits c effect rest) :
    run.rest = c :: rest ∧ e.running = true ∧ e.obstacleAhead c run.obstacles = .ok none ∧
      e.effect c = .ok effect ∧ effect.done = true := by
  unfold Engine.verdict at verdict
  cases left : run.rest with
  | nil => simp [left] at verdict
  | cons next more =>
    cases running : e.running with
    | false => simp [left, running] at verdict
    | true =>
      simp only [left, running, if_true] at verdict
      cases ahead : e.obstacleAhead next run.obstacles with
      | error error => simp [ahead] at verdict
      | ok hit =>
        cases hit with
        | some hit => simp [ahead] at verdict
        | none =>
          simp only [ahead] at verdict
          cases found : e.effect next with
          | error error => simp [found] at verdict
          | ok effect =>
            cases effect with
            | blocked => simp [found] at verdict
            | _ =>
              simp only [found, Verdict.commits.injEq] at verdict
              obtain ⟨rfl, rfl, rfl⟩ := verdict
              exact ⟨rfl, rfl, ahead, found, rfl⟩

/-- An obstacle is ahead only of a movement, at its destination. -/
private theorem obstacleAhead_some {c : Command} {obstacles : List Obstacle} {hit : Obstacle}
    (ahead : e.obstacleAhead c obstacles = .ok (some hit)) :
    c.kind.moves = true ∧ ∃ p, e.destination c = .ok p ∧ findObstacle p obstacles = some hit := by
  unfold obstacleAhead at ahead
  split at ahead
  · rename_i moves
    cases leads : e.destination c with
    | error error => simp [leads, Except.map] at ahead
    | ok p =>
      simp only [leads, Except.map, Except.ok.injEq] at ahead
      exact ⟨moves, p, rfl, ahead⟩
  · cases ahead

/-- What is ahead of a command is unknown only if it is a movement that leads nowhere. -/
theorem obstacleAhead_error_at {c : Command} {obstacles : List Obstacle} {error : EngineError}
    (refused : e.obstacleAhead c obstacles = .error error) :
    c.kind.moves = true ∧ e.destination c = .error error := by
  unfold obstacleAhead at refused
  split at refused
  · rename_i moves
    cases leads : e.destination c with
    | error found =>
      simp only [leads, Except.map, Except.error.injEq] at refused
      exact ⟨moves, congrArg _ refused⟩
    | ok p => simp [leads, Except.map] at refused
  · cases refused

private theorem obstacleAhead_error {c : Command} {obstacles : List Obstacle} {error : EngineError}
    (refused : e.obstacleAhead c obstacles = .error error) :
    error = .missingValue c ∨ ∃ fault, error = .number fault :=
  destination_error (obstacleAhead_error_at refused).2

/-- Only a movement is blocked, by the edge of the canvas. -/
theorem effect_blocked {c : Command} (blocked : e.effect c = .ok .blocked) :
    c.kind.moves = true ∧ ∃ p, e.destination c = .ok p ∧ e.within p = false := by
  unfold effect turnEffect at blocked
  split at blocked
  case h_1 kind | h_2 kind =>
    cases leads : e.destination c with
    | error error => simp [leads] at blocked
    | ok p =>
      refine ⟨by simp [kind, Kind.moves], p, rfl, ?_⟩
      simp only [leads, Except.ok.injEq] at blocked
      split at blocked
      · cases blocked
      · rename_i outside
        exact Bool.eq_false_iff.mpr outside
  all_goals
    repeat' split at blocked
    all_goals cases blocked

/-- A movement is refused: it leads into obstacles, of which the first is hit, or else off the
canvas. -/
def Refuses (e : Engine) (c : Command) (obstacles : List Obstacle) (status : Status)
    (hit : Option Obstacle) : Prop :=
  c.kind.moves = true ∧ ∃ p, e.destination c = .ok p ∧ findObstacle p obstacles = hit ∧
    (status = .obstacle ∧ hit.isSome = true ∨
      status = .boundary ∧ hit = none ∧ e.within p = false)

/-- A run that goes on and still ends has come to its last step, or its next command is a movement
that is refused. -/
theorem verdict_ends {status : Status} {hit : Option Obstacle} (running : e.running = true)
    (verdict : e.verdict run = .ends status hit) :
    run.rest = [] ∧ status = .completed ∧ hit = none ∨
    ∃ c rest, run.rest = c :: rest ∧ e.Refuses c run.obstacles status hit := by
  unfold Engine.verdict at verdict
  cases left : run.rest with
  | nil =>
    simp only [left, running, if_true, Verdict.ends.injEq] at verdict
    exact .inl ⟨rfl, verdict.1.symm, verdict.2.symm⟩
  | cons c rest =>
    refine .inr ⟨c, rest, ?_⟩
    simp only [left, running, if_true] at verdict
    cases ahead : e.obstacleAhead c run.obstacles with
    | error error => simp [ahead] at verdict
    | ok met =>
      cases met with
      | some met =>
        simp only [ahead, Verdict.ends.injEq] at verdict
        obtain ⟨rfl, rfl⟩ := verdict
        obtain ⟨moves, p, leads, inside⟩ := obstacleAhead_some ahead
        exact ⟨rfl, moves, p, leads, inside, .inl ⟨rfl, rfl⟩⟩
      | none =>
        simp only [ahead] at verdict
        cases found : e.effect c with
        | error error => simp [found] at verdict
        | ok effect =>
          cases effect with
          | blocked =>
            simp only [found, Verdict.ends.injEq] at verdict
            obtain ⟨rfl, rfl⟩ := verdict
            obtain ⟨moves, p, leads, outside⟩ := effect_blocked found
            have clear : findObstacle p run.obstacles = none := by
              simpa [obstacleAhead, moves, leads, Except.map] using ahead
            exact ⟨rfl, moves, p, leads, clear, .inr ⟨rfl, rfl, outside⟩⟩
          | _ => simp [found] at verdict

/-- A step breaks where the obstacles ahead of its command or the effect of it cannot be found. -/
theorem verdict_breaks_at {error : EngineError} (verdict : e.verdict run = .breaks error) :
    ∃ c rest, run.rest = c :: rest ∧
      (e.obstacleAhead c run.obstacles = .error error ∨ e.effect c = .error error) := by
  unfold Engine.verdict at verdict
  cases left : run.rest with
  | nil => simp [left] at verdict
  | cons c rest =>
    refine ⟨c, rest, rfl, ?_⟩
    cases running : e.running with
    | false => simp [left, running] at verdict
    | true =>
      simp only [left, running, if_true] at verdict
      cases ahead : e.obstacleAhead c run.obstacles with
      | error found =>
        simp only [ahead, Verdict.breaks.injEq] at verdict
        exact .inl (congrArg _ verdict)
      | ok hit =>
        cases hit with
        | some hit => simp [ahead] at verdict
        | none =>
          simp only [ahead] at verdict
          cases found : e.effect c with
          | error found =>
            simp only [found, Verdict.breaks.injEq] at verdict
            exact .inr (congrArg _ verdict)
          | ok effect => cases effect <;> simp [found] at verdict

/-- A step breaks because its command is malformed or a number cannot be used. -/
theorem verdict_breaks {error : EngineError} (verdict : e.verdict run = .breaks error) :
    ∃ c, error = .missingValue c ∨ error = .notAStep c ∨ ∃ fault, error = .number fault := by
  obtain ⟨c, rest, -, ahead | found⟩ := verdict_breaks_at verdict
  · exact ⟨c, (obstacleAhead_error ahead).imp_right .inr⟩
  · exact ⟨c, effect_error found⟩

/-- A run that was asked to stop ends as stopped, whatever is left of it. -/
theorem verdict_stopped (run : Run) (stopped : e.running = false) :
    e.verdict run = .ends .stopped none := by
  unfold Engine.verdict
  cases run.rest with
  | nil => simp [stopped]
  | cons c rest => simp [stopped]

/-- A run that is suspended again has committed its next command, and its observers have been told
without a failure. -/
theorem resume_suspended {next : Run} {delay : Float} {after : Engine}
    (resumed : e.resume run = (.suspended next delay, after)) :
    ∃ c effect, e.verdict run = .commits c effect next.rest ∧
      next = ⟨next.rest, run.index + 1, run.obstacles⟩ ∧
      (e.stepped run.index effect).notify = (.ok (), after) := by
  rw [resume_eq] at resumed
  cases verdict : e.verdict run with
  | ends status hit =>
    simp only [verdict, carryOut, finish] at resumed
    split at resumed <;> cases resumed
  | breaks error =>
    rw [verdict] at resumed
    cases resumed
  | commits c effect rest =>
    simp only [verdict, carryOut] at resumed
    split at resumed
    · cases resumed
    · rename_i told notified
      cases resumed
      exact ⟨c, effect, rfl, rfl, notified⟩

end Verdicts

/-! ## What is committed -/

/-- The command that the next resumption of a run commits, if it commits one. -/
def committed (e : Engine) (run : Run) : List Command :=
  match e.verdict run with
  | .commits c _ _ => [c]
  | _ => []

end Engine

end TurtleScript
