import TurtleScript.Language.Command

/-!
What an engine refuses. Each refusal is a cause with the data it concerns; the wording is decided
here.
-/
namespace TurtleScript

/-- Why an engine refuses an operation or ends a run. -/
inductive EngineError where
  /-- An engine needs at least one color. -/
  | emptyPalette
  /-- A number that cannot be used where it stands. -/
  | number (fault : NumberFault)
  /-- A command without the value it needs. -/
  | missingValue (command : Command)
  /-- A command that is no single step. -/
  | notAStep (command : Command)
  /-- A repetition without a count in range or without a body, as it is shown. -/
  | malformedRepeat (command : Command) (shown : String)
  /-- Another run is active. -/
  | inProgress
  /-- The program has more steps than the engine allows. -/
  | overBudget (steps budget : Int)
  /-- An observer failed. -/
  | observerFailed (name : String)
  /-- The run was cancelled. -/
  | cancelled

namespace EngineError

/-- The wording of a refusal. -/
def message : EngineError → String
  | .emptyPalette => "palette must contain at least one color"
  | .number fault => fault.message
  | .missingValue c => s!"{c.kind.name} without a value"
  | .notAStep c => s!"Cannot execute {c.kind.name} as a step"
  | .malformedRepeat _ shown => s!"Malformed REPEAT: {shown}"
  | .inProgress => "A program is already running"
  | .overBudget steps budget => s!"Program expands to {steps} steps, budget is {budget}"
  | .observerFailed name => s!"subscriber {name} failed"
  | .cancelled => ""

/-- The refusal of a malformed repetition; one that cannot be shown is a fault of its own. -/
def malformed (c : Command) : EngineError :=
  match c.shown with
  | .error fault => .number fault
  | .ok shown => .malformedRepeat c shown

/-- The refusal of a number of steps; where one of the two numbers is too long to be told that is a
fault of its own. -/
def beyondBudget (steps budget : Int) : EngineError :=
  match wholeText steps, wholeText budget with
  | .error fault, _ | _, .error fault => .number fault
  | .ok _, .ok _ => .overBudget steps budget

/-- The command that breaks the contract between programs and engines, if that is the cause. -/
def offender? : EngineError → Option Command
  | .missingValue c | .notAStep c | .malformedRepeat c _ => some c
  | _ => none

/-- The title of a broken contract in a diagnostic. The other causes are no fault of the program
that is run. -/
def title? : EngineError → Option String
  | .missingValue _ | .notAStep _ | .malformedRepeat _ _ =>
    some "tortuga.tortuga_engine.CommandContractError"
  | .inProgress => some "tortuga.tortuga_engine.ExecutionInProgressError"
  | .overBudget _ _ => some "tortuga.tortuga_engine.StepBudgetExceeded"
  | _ => none

end EngineError

end TurtleScript
