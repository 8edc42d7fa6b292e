import TurtleScript.Console.Arguments
import TurtleScript.Console.Shell
import TurtleScript.Level

/-!
The whole program: its arguments decide between the help, the shell and one run, and what goes wrong
with the arguments, the files or the run is told on the error stream.
-/
namespace TurtleScript

/-- Why a launch fails. -/
inductive LaunchFault where
  /-- The alias file is not used. -/
  | aliases (fault : AliasFileFault)
  /-- The start position is none. -/
  | start (fault : StartFault)
  /-- The obstacle file is not used. -/
  | obstacles (fault : ObstaclesFault)
  /-- The program is not run to its end. -/
  | run (fault : RunFault)
  /-- The shell is ended by an error. -/
  | shell (error : EngineError)

/-- The wording of a fault. -/
def LaunchFault.message : LaunchFault → String
  | .aliases fault => fault.message
  | .start fault => fault.message
  | .obstacles fault => fault.message
  | .run fault => fault.message
  | .shell error => error.message

/-- Whether a number fault is told like a wrong value; one of magnitude is not. -/
def NumberFault.isValue : NumberFault → Bool
  | .nanToWhole | .domain | .tooLong => true
  | .infinityToWhole | .tooLarge | .quotientTooLarge => false

/-- Whether a fault is told and ends the program in an orderly way. The others end it abruptly. -/
def LaunchFault.isTold : LaunchFault → Bool
  | .aliases _ | .start _ => true
  | .obstacles (.obstacle .tooLarge) => false
  | .obstacles _ => true
  | .run (.engine .emptyPalette) => true
  | .run (.engine (.number fault)) => fault.isValue
  | .run (.engine _) | .run .noSpeed | .run .noResult => false
  | .run _ => true
  | .shell _ => false

/-- What an option with a text is used for; an empty text counts as not given. -/
def whenGiven {ε α : Type} (option : Option String) (default : α) (use : String → Except ε α) :
    Except ε α :=
  match option with
  | none => .ok default
  | some text => if text.isEmpty then .ok default else use text

/-- The run that settings ask for. Aliases are looked at first, then the start, then the
obstacles. -/
def Settings.request (s : Settings) (files : Files) (source : String) :
    Except LaunchFault RunRequest := do
  let aliases ← whenGiven s.sugar .standard fun path =>
    (AliasTable.standard.load files path).mapError .aliases
  let start ← whenGiven s.start none fun text => ((Pose.ofText text).map some).mapError .start
  let obstacles ← whenGiven s.obstacles [] fun path =>
    (files.readObstacles path).mapError .obstacles
  return ⟨source, s.isText, s.speed, start, obstacles, aliases, s.json, s.verbose⟩

/-- What a launch prints and how it ends. The error is one that ends it abruptly. -/
abbrev Launched := Output × Except LaunchFault ExitStatus

/-- Ends a launch by a fault. -/
def LaunchFault.ends (fault : LaunchFault) (said : Output) : Launched :=
  if fault.isTold then (said ++ .errorLine s!"tortuga: {fault.message}", .ok .failure)
  else (said, .error fault)

/-- `main`, a run: makes the one that settings ask for. -/
def Settings.runSource (s : Settings) (files : Files) (source : String) : Launched :=
  match s.request files source with
  | .error fault => fault.ends .nothing
  | .ok request =>
    match request.run files with
    | (said, .error fault) => (LaunchFault.run fault).ends said
    | (said, .ok status) => (said, .ok status)

/-- What a launch does. -/
inductive Plan where
  /-- Prints and ends. -/
  | finish (output : Output) (status : ExitStatus)
  /-- Starts the shell. -/
  | shell (verbose : Bool)
  /-- Runs a source. -/
  | run (settings : Settings) (source : String)

/-- What arguments lead to. Without any, and without a source, the shell is started. -/
def plan (arguments : List String) : Plan :=
  if arguments.isEmpty then .shell false
  else
    match readArguments arguments with
    | .error fault => .finish fault.report .usage
    | .ok .help => .finish (.line helpText) .success
    | .ok (.settings settings) =>
      match settings.repl, settings.source with
      | false, some source => .run settings source
      | _, _ => .shell settings.verbose

/-- `main`: runs the program as a whole. `path` is the value of the alias variable, empty when it is
not set, and `input` holds the lines that the shell would be given. -/
def launch (files : Files) (path : String) (arguments input : List String) : Launched :=
  match plan arguments with
  | .finish output status => (output, .ok status)
  | .shell verbose =>
    let (output, ending) := Shell.run files path verbose verbose input
    (output, (ending.mapError .shell).map fun _ => .success)
  | .run settings source => settings.runSource files source

end TurtleScript
