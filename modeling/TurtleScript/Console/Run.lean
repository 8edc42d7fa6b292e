import TurtleScript.Alias.Table
import TurtleScript.Console.Log
import TurtleScript.Data.Json.Writer
import TurtleScript.Storage.Folder

/-!
Running one program from the command line: its text is read, all complaints are printed if there are
any, and else it is run on a fresh engine and its outcome is printed, as text or as JSON.
-/
namespace TurtleScript

open Text

/-! ## Endings -/

/-- How the program ends as a process. -/
inductive ExitStatus where
  /-- The run was completed or stopped. -/
  | success
  /-- Nothing was run. -/
  | failure
  /-- A movement was refused. -/
  | collision
  /-- The arguments could not be understood. -/
  | usage
deriving Repr, DecidableEq

/-- The exit code. -/
def ExitStatus.code : ExitStatus → Nat
  | .success => 0
  | .failure => 1
  | .collision => 2
  | .usage => 2

/-- Why a program is not run to its end. -/
inductive RunFault where
  /-- The file's name does not end as program files do. -/
  | notProgramFile
  /-- The file is not read. -/
  | file (fault : FileFault)
  /-- The engine refuses. -/
  | engine (error : EngineError)
  /-- There is no speed. -/
  | noSpeed
  /-- The run ended without a result. -/
  | noResult

/-- The wording of a fault. -/
def RunFault.message : RunFault → String
  | .notProgramFile => "Only .turtle files are supported."
  | .file fault => fault.message
  | .engine error => error.message
  | .noSpeed => (FieldFault.notWholeType (Value.list []).typeName).message
  | .noResult => ""

/-! ## Requests -/

/-- The delay of a run from the command line, in milliseconds. -/
def consoleSpeed : Int := 10

/-- What is to be run, and how. -/
structure RunRequest where
  /-- A program, or the path of its file. -/
  source : String
  /-- Whether the source is the program itself. -/
  isText : Bool
  /-- The delay after a step, in milliseconds; no engine is made without one. -/
  speed : Option Int := some consoleSpeed
  /-- Where the turtle starts; the centre by default. -/
  start : Option Pose := none
  /-- What is in the way. -/
  obstacles : List Obstacle := []
  /-- The words of the language. -/
  aliases : AliasTable := .standard
  /-- Whether the outcome is printed as JSON. -/
  json : Bool := false
  /-- Whether the log is switched on. -/
  logging : Bool := false

/-- The text of the program that is to be run. -/
def RunRequest.text (request : RunRequest) (files : Files) : Except RunFault String :=
  if request.isText then .ok request.source
  else if request.source.endsWith ".turtle" then
    (files.readText request.source).mapError .file
  else .error .notProgramFile

/-! ## Reports -/

/-- A complaint as the console prints it. The console only has complaints about texts, whose lines
are not too long to be written. -/
def Report.consoleLine (r : Report) : String :=
  s!"[error] >>> {r.worded (r.line.map toString)}"

/-- A complaint as data. -/
def Report.value (r : Report) : Value :=
  .record [("message", .text r.message),
    ("line", r.line.elim .null fun line => .number (.whole line))]

/-- `run_tortuga`, the report of parse errors: the complaints about a program. -/
def refusalReport (json : Bool) (reports : List Report) : Output :=
  if json then
    .line (Json.write (.record [("status", .text "parse_error"),
      ("errors", .list (reports.map Report.value))]))
  else .line (lines (reports.map Report.consoleLine))

/-- A real number as data. -/
def realValue (x : Float) : Value := .number (.real x)

/-- A point as data. -/
def Point.value (p : Point) : Value := .list [realValue p.x, realValue p.y]

/-- `TurtleState.to_dict`: a turtle as data. -/
def Turtle.value (t : Turtle) : Value :=
  .record [("x", realValue t.pose.x), ("y", realValue t.pose.y),
    ("angle", realValue t.pose.angle), ("pen_down", .bool t.penDown), ("color", .text t.color),
    ("pen_size", realValue t.penSize.value)]

/-- `DrawingInstruction.to_dict`: an instruction as data. -/
def Instruction.value (i : Instruction) : Value :=
  .record [("kind", .text i.stroke.name), ("from", i.start.value), ("to", i.finish.value),
    ("color", .text i.color), ("pen_size", realValue i.penSize.value)]

/-- The outcome of a run as data. Its only whole number is a step, which is never too long to be
written. -/
def outcomeValue (e : Engine) (result : RunResult) : Value :=
  .record [("status", .text result.status.word), ("step", .number (.whole result.step)),
    ("turtle", e.turtle.value), ("drawing", .list (e.drawing.map Instruction.value))]

/-- The outcome of a run in one line. -/
def outcomeLine (e : Engine) (success : Bool) (result : RunResult) : String :=
  if success then s!"[ok] >>> {result.status.word} after {e.totalSteps} steps"
  else s!"[collision] >>> {result.status.word} at step {result.step}"

/-- Where the turtle is, in one line. -/
def turtleLine (e : Engine) : String :=
  let pose := e.turtle.pose
  s!"turtle at ({Decimal.fixed 2 pose.x}, {Decimal.fixed 2 pose.y}) " ++
    s!"heading {Decimal.fixed 2 pose.angle}°, {e.drawing.length} drawing instructions"

/-- `run_tortuga`, the report of a run: its outcome. -/
def outcomeReport (json : Bool) (e : Engine) (success : Bool) (result : RunResult) : Output :=
  if json then .line (Json.write (outcomeValue e result))
  else .lines [outcomeLine e success result, turtleLine e]

/-! ## Running -/

/-- The engine that a program is run on. -/
def RunRequest.engine (request : RunRequest) : Except RunFault Engine :=
  match request.speed with
  | none => .error .noSpeed
  | some speed =>
    (Engine.create { speed := .whole speed, start := request.start }).mapError .engine

/-- Runs the commands of a program on a fresh engine. -/
def RunRequest.runCommands (request : RunRequest) (commands : List Command) :
    Output × Except RunFault ExitStatus :=
  match request.engine with
  | .error fault => (.nothing, .error fault)
  | .ok engine =>
    let (stretch, after) := engine.execute commands request.obstacles
    let log := Output.log request.logging fun _ =>
      runLog engine commands request.obstacles stretch.progress after
    match stretch.progress.result, after.lastResult with
    | .error error, _ => (log, .error (.engine error))
    | .ok _, none => (log, .error .noResult)
    | .ok success, some result =>
      (log ++ outcomeReport request.json after success result,
        .ok (if success then .success else .collision))

/-- Runs a text as a program. -/
def RunRequest.runText (request : RunRequest) (text : String) :
    Output × Except RunFault ExitStatus :=
  let keywords := request.aliases.words
  let program := readProgram keywords text
  let log := Output.log request.logging fun _ => readingLog keywords text
  if program.ok then
    let (output, status) := request.runCommands program.commands
    (log ++ output, status)
  else (log ++ refusalReport request.json program.reports, .ok .failure)

/-- `run_tortuga`: runs what is to be run. -/
def RunRequest.run (request : RunRequest) (files : Files) : Output × Except RunFault ExitStatus :=
  match request.text files with
  | .error fault => (.nothing, .error fault)
  | .ok text => request.runText text

end TurtleScript
