import TurtleScript.Console.Output
import TurtleScript.Engine.Run
import TurtleScript.Language.Parser

/-!
The log that can be switched on: one line for every reading of a token list, and two for every run
that is accepted.
-/
namespace TurtleScript

/-- The line for one reading. -/
def Pass.logLine (p : Pass) : String :=
  s!"DEBUG:tortuga.tortuga_parser:parsed {p.commands} top-level commands, {p.errors} errors"

/-- The lines for the readings of a text. -/
def readingLog (keywords : Keywords) (text : String) : List String :=
  (readingPasses keywords text).map Pass.logLine

/-- The line for the start of a run. -/
def startLogLine (steps obstacles : Nat) : String :=
  s!"DEBUG:tortuga.tortuga_engine:running {steps} steps against {obstacles} obstacles"

/-- The line for the end of a run. -/
def RunResult.logLine (r : RunResult) (total : Nat) : String :=
  s!"INFO:tortuga.tortuga_engine:run {r.status.word} at step {r.step} of {total}"

/-- The line for the end of a run, if it ended with a result. -/
def endLog (progress : Progress) (after : Engine) : List String :=
  match progress, after.lastResult with
  | .returned _, some result => [result.logLine after.totalSteps]
  | _, _ => []

/-- The lines for a run of a program from an engine: how it progressed and what it left. -/
def runLog (before : Engine) (commands : List Command) (obstacles : List Obstacle)
    (progress : Progress) (after : Engine) : List String :=
  match before.accept commands with
  | .error _ => []
  | .ok steps => startLogLine steps.length obstacles.length :: endLog progress after

/-- The log as output, if it is switched on. -/
def Output.log (enabled : Bool) (entries : Unit → List String) : Output :=
  if enabled then .errorLines (entries ()) else .nothing

end TurtleScript
