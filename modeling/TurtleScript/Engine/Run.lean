import TurtleScript.Engine.Notify

/-!
Runs. A run goes through the flattened program one step at a time and is suspended after each step;
whoever holds it resumes it. The engine only knows whether a run is under way, so what happens
between two steps is seen at the next one. However a run ends, the engine is idle again.
-/
namespace TurtleScript

/-- A suspended run. -/
structure Run where
  /-- The steps that are left. -/
  rest : List Command
  /-- The number of the next step. -/
  index : Nat
  /-- The obstacles in its way. -/
  obstacles : List Obstacle

/-- Where a run is when control comes back. -/
inductive Progress where
  /-- Suspended after a step, for a delay in seconds. -/
  | suspended (run : Run) (delay : Float)
  /-- Ended; the flag says whether nothing was in the way. -/
  | returned (success : Bool)
  /-- Ended by an error. -/
  | raised (error : EngineError)

/-- What came of a run; one that is still suspended is in progress. -/
def Progress.result : Progress → Except EngineError Bool
  | .suspended _ _ => .error .inProgress
  | .returned success => .ok success
  | .raised error => .error error

namespace Engine

/-! ## Ending -/

/-- `execute_program`, what it does however it ends: the engine when no run is under way. -/
def idle (e : Engine) : Engine :=
  { e with active := false, running := false, currentStep := -1 }

/-- `TurtleEngine._finish`: the engine with the result of a run. -/
def record (e : Engine) (status : Status) (step : Int) (obstacle : Option Obstacle) : Engine :=
  { e with lastResult := some ⟨status, step, obstacle⟩ }

/-- `execute_program`, a return: ends a run with a result, and tells the observers. -/
def finish (e : Engine) (status : Status) (step : Nat) (obstacle : Option Obstacle) :
    Progress × Engine :=
  match (e.record status step obstacle).idle.notify with
  | (.error error, after) => (.raised error, after)
  | (.ok _, after) => (.returned status.succeeded, after)

/-- `execute_program`, an error that passes through it: ends a run; the observers are not told. -/
def fail (e : Engine) (error : EngineError) : Progress × Engine :=
  (.raised error, e.idle)

/-- `execute_program`, a cancellation: ends a suspended run at the step that the engine is at, and
tells the observers. -/
def cancel (e : Engine) : Progress × Engine :=
  match (e.record .stopped e.currentStep none).idle.notify with
  | (.error error, after) => (.raised error, after)
  | (.ok _, after) => (.raised .cancelled, after)

/-! ## Steps -/

/-- The obstacle that a command would hit; only movements hit one. -/
def obstacleAhead (e : Engine) (c : Command) (obstacles : List Obstacle) :
    Except EngineError (Option Obstacle) :=
  if c.kind.moves then (e.destination c).map fun p => findObstacle p obstacles
  else .ok none

/-- `execute_program`, the body of the loop: makes the step of a number and tells the observers, or
ends the run at it. -/
def makeStep (e : Engine) (c : Command) (index : Nat) (rest : List Command)
    (obstacles : List Obstacle) : Progress × Engine :=
  match e.obstacleAhead c obstacles with
  | .error error => e.fail error
  | .ok (some hit) => e.finish .obstacle index (some hit)
  | .ok none =>
    match e.effect c with
    | .error error => e.fail error
    | .ok .blocked => e.finish .boundary index none
    | .ok effect =>
      match (e.commit effect).notify with
      | (.error error, told) => told.fail error
      | (.ok _, told) => (.suspended ⟨rest, index + 1, obstacles⟩ told.stepDelay, told)

/-- `execute_program`, from one suspension to the next: a run ends if it was asked to stop or no
step is left, and else makes one step. -/
def resume (e : Engine) (run : Run) : Progress × Engine :=
  match run.rest with
  | [] => e.finish (if e.running then .completed else .stopped) run.index none
  | c :: rest =>
    if e.running then makeStep { e with currentStep := run.index } c run.index rest run.obstacles
    else e.finish .stopped run.index none

/-! ## Starting -/

/-- `TurtleEngine.flatten`: the steps of a program, one after the other. -/
def flatten (commands : List Command) : Except EngineError (List Command) :=
  (Command.flattenAll commands).mapError .malformed

theorem flatten_ok_iff {commands steps : List Command} :
    flatten commands = .ok steps ↔ Command.flattenAll commands = .ok steps := by
  unfold flatten
  cases Command.flattenAll commands with
  | error bad => exact ⟨nofun, nofun⟩
  | ok flat => exact ⟨fun same => congrArg _ (Except.ok.inj same), congrArg _⟩

theorem flatten_error_iff {commands : List Command} {error : EngineError} :
    flatten commands = .error error ↔
      ∃ bad, Command.flattenAll commands = .error bad ∧ error = .malformed bad := by
  unfold flatten
  cases Command.flattenAll commands with
  | error bad =>
    constructor
    · intro refused
      exact ⟨bad, rfl, (Except.error.inj refused).symm⟩
    · rintro ⟨_, ⟨⟩, rfl⟩
      rfl
  | ok flat =>
    constructor
    · exact nofun
    · rintro ⟨_, ⟨⟩, -⟩

/-- `execute_program`, the check of `max_steps`: refuses a program with more steps than the budget
allows. -/
def checkBudget (e : Engine) (commands : List Command) : Except EngineError Unit :=
  match e.budget with
  | none => .ok ()
  | some budget =>
    match Command.countAll commands with
    | .error fault => .error (.number fault)
    | .ok steps => if steps > budget then .error (.beyondBudget steps budget) else .ok ()

/-- `execute_program`, all that comes before the run: the steps of a program that the engine
accepts. No other run is under way, the budget is kept, and every repetition is well formed. -/
def accept (e : Engine) (commands : List Command) : Except EngineError (List Command) :=
  if e.active then .error .inProgress
  else
    match e.checkBudget commands with
    | .error error => .error error
    | .ok _ => flatten commands

/-- A program is accepted only if it can be flattened, and its steps are those. -/
theorem flat_of_accept {e : Engine} {commands steps : List Command}
    (accepted : e.accept commands = .ok steps) :
    Command.flattenAll commands = .ok steps := by
  unfold accept at accepted
  split at accepted
  · cases accepted
  · split at accepted
    · cases accepted
    · exact flatten_ok_iff.mp accepted

/-- The engine at the start of a run. -/
def begin (e : Engine) (steps : List Command) : Engine :=
  { e with active := true, running := true, currentStep := 0, totalSteps := steps.length }

/-- `execute_program`, up to the first suspension: starts a run and makes its first step. A program
that is not accepted changes nothing. -/
def start (e : Engine) (commands : List Command) (obstacles : List Obstacle) : Progress × Engine :=
  match e.accept commands with
  | .error error => (.raised error, e)
  | .ok steps => (e.begin steps).resume ⟨steps, 0, obstacles⟩

end Engine

/-! ## Driving a run -/

/-- How far a run got: where it is, how often it was suspended on the way, and its last delay. -/
structure Stretch where
  /-- Where the run is. -/
  progress : Progress
  /-- How often it was suspended. -/
  sleeps : Nat
  /-- The last delay it asked for. -/
  delay : Option Float

namespace Engine

/-- Carries on from where a run is, for at most `count` further resumptions. -/
def drive : (count : Nat) → Stretch → Engine → Stretch × Engine
  | count, ⟨.suspended run delay, sleeps, _⟩, e =>
    match count with
    | 0 => (⟨.suspended run delay, sleeps + 1, some delay⟩, e)
    | more + 1 =>
      let (progress, after) := e.resume run
      drive more ⟨progress, sleeps + 1, some delay⟩ after
  | _, ended, e => (ended, e)

/-- Resumes a suspended run at most `count` times. -/
def resumeTimes (e : Engine) (count : Nat) (run : Run) : Stretch × Engine :=
  match count with
  | 0 => (⟨.suspended run e.stepDelay, 0, none⟩, e)
  | more + 1 =>
    let (progress, after) := e.resume run
    drive more ⟨progress, 0, none⟩ after

/-- Resumes a suspended run until it ends: every resumption takes a step off it. -/
def resumeToEnd (e : Engine) (run : Run) : Stretch × Engine :=
  e.resumeTimes (run.rest.length + 1) run

/-- Starts a run and resumes it at most `count` times more. -/
def startTimes (e : Engine) (count : Nat) (commands : List Command) (obstacles : List Obstacle) :
    Stretch × Engine :=
  let (progress, after) := e.start commands obstacles
  drive count ⟨progress, 0, none⟩ after

/-- `TurtleEngine.execute_program`, whole: runs a program from start to end. -/
def execute (e : Engine) (commands : List Command) (obstacles : List Obstacle) :
    Stretch × Engine :=
  let (progress, after) := e.start commands obstacles
  let steps := match progress with
    | .suspended run _ => run.rest.length + 1
    | _ => 0
  drive steps ⟨progress, 0, none⟩ after

end Engine

end TurtleScript
