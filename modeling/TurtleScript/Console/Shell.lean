import TurtleScript.Alias.File
import TurtleScript.Console.Run
import TurtleScript.Language.Sample
import TurtleScript.Text.Case

/-!
The interactive shell. Lines are gathered until no bracket is left open; the gathered chunk is then
a shell command or a program, which is run on the shell's engine with the shell's aliases. The shell
is fed one line at a time and answers with what it prints.
-/
namespace TurtleScript

open Text

/-! ## Chunks -/

/-- The lines of a chunk that is not complete, and how many brackets they leave open. -/
structure Chunk where
  /-- The lines in order. -/
  lines : List String
  /-- Opening brackets less closing ones. -/
  depth : Int
deriving Repr, DecidableEq

namespace Chunk

/-- No lines. -/
def empty : Chunk := ⟨[], 0⟩

/-- A chunk with one more line. -/
def add (c : Chunk) (line : String) : Chunk :=
  ⟨c.lines ++ [line], c.depth + bracketDepth line⟩

/-- Whether no bracket is left open. -/
def complete (c : Chunk) : Bool := c.depth ≤ 0

/-- The text of a chunk, without blanks around it. -/
def text (c : Chunk) : String :=
  strip (Text.lines c.lines)

end Chunk

/-! ## Meanings -/

/-- What a chunk asks for. -/
inductive Wish where
  /-- Nothing. -/
  | nothing
  /-- To switch the verbose mode. -/
  | toggleVerbose
  /-- To print the state. -/
  | state
  /-- To reset the engine. -/
  | reset
  /-- To list the samples. -/
  | samples
  /-- To run a sample. -/
  | sample (name : String)
  /-- To list the aliases. -/
  | listAliases
  /-- To add aliases, given as JSON text. -/
  | addAliases (json : String)
  /-- To run a program. -/
  | program (text : String)
deriving Repr, DecidableEq

/-- What starts the alias command. -/
def sugarWord : String := "SUGAR"

/-- `start_repl`, the tests of a chunk: what a text without blanks around it asks for. -/
def Wish.ofText (text : String) : Wish :=
  let lowered := lower text
  if text.isEmpty then .nothing
  else if lowered = "verbose-mode" then .toggleVerbose
  else if lowered = "state" then .state
  else if lowered = "reset" then .reset
  else if lowered = "samples" then .samples
  else if lowered.startsWith "sample " then .sample (afterFirstWord lowered)
  else if (upper text).startsWith sugarWord then
    let rest := strip (String.ofList (text.toList.drop sugarWord.length))
    if rest.isEmpty then .listAliases else .addAliases rest
  else .program text

/-- Whether a line asks to leave the shell. -/
def isFarewell (line : String) : Bool :=
  let word := lower (strip line)
  word = "exit" || word = "quit"

/-! ## The shell -/

/-- A shell between two lines. -/
structure Shell where
  /-- The engine that programs run on. -/
  engine : Engine
  /-- The words of the language. -/
  aliases : AliasTable
  /-- Whether programs and states are printed. -/
  verbose : Bool
  /-- Whether the log is switched on. -/
  logging : Bool
  /-- The chunk that is not complete. -/
  chunk : Chunk

/-- What a shell does with a line: what it prints, the shell it leaves, and the error that ended it,
if one did. -/
structure Turn where
  /-- What is printed. -/
  output : Output
  /-- The shell that is left. -/
  shell : Shell
  /-- The error that ended it. -/
  escaped : Option EngineError := none

/-- `describe_state`: the state of an engine in one line. -/
def Engine.stateLine (e : Engine) : String :=
  let pose := e.turtle.pose
  let pen := if e.turtle.penDown then "down" else "up"
  s!"[state] >>> x={Decimal.fixed 2 pose.x} y={Decimal.fixed 2 pose.y} " ++
    s!"angle={Decimal.fixed 2 pose.angle} pen={pen} color={e.turtle.color} " ++
    s!"size={Decimal.plain e.turtle.penSize.value} drawing={e.drawing.length}"

/-- What is printed when a program breaks the engine's contract. -/
def contractReport (title message : String) : Output :=
  .lines ["[error] >>>", "Traceback (most recent call last):", s!"{title}: {message}", ""]

namespace Shell

/-! ## Programs -/

/-- Runs commands on the shell's engine. -/
def runCommands (s : Shell) (commands : List Command) : Turn :=
  let (stretch, engine) := s.engine.execute commands []
  let after := { s with engine }
  let log := Output.log s.logging fun _ => runLog s.engine commands [] stretch.progress engine
  match stretch.progress.result with
  | .error error =>
    match error.title? with
    | some title => ⟨log ++ contractReport title error.message, after, none⟩
    | none => ⟨log, after, some error⟩
  | .ok success =>
    let collision : Output :=
      match success, engine.lastResult with
      | false, some result =>
        .line s!"[collision] >>> {result.status.word} at step {result.step}"
      | _, _ => .nothing
    let state : Output := if s.verbose then .line engine.stateLine else .nothing
    ⟨log ++ collision ++ state, after, none⟩

/-- The commands of a program, if the shell prints them. -/
def treeOutput (s : Shell) (commands : List Command) : Except NumberFault Output :=
  if s.verbose then (Command.shownAll commands).map fun text => .line s!"[tree] >>> {text}"
  else .ok .nothing

/-- `run_source`: runs a text as a program. -/
def runSource (s : Shell) (text : String) : Turn :=
  let keywords := s.aliases.words
  let program := readProgram keywords text
  let log := Output.log s.logging fun _ => readingLog keywords text
  if program.ok then
    match s.treeOutput program.commands with
    | .error fault => ⟨log, s, some (.number fault)⟩
    | .ok tree =>
      let turn := s.runCommands program.commands
      { turn with output := log ++ tree ++ turn.output }
  else ⟨log ++ .lines (program.reports.map Report.consoleLine), s, none⟩

/-! ## Aliases -/

/-- Why aliases entered by hand are not added. -/
inductive SugarFault where
  /-- The text is no JSON. -/
  | malformed (fault : Json.Fault)
  /-- The text is no record. -/
  | notRecord
  /-- The aliases are refused. -/
  | refused (fault : AliasFault)
deriving Repr, DecidableEq

/-- The lines that tell about a fault. -/
def SugarFault.lines : SugarFault → List String
  | .malformed fault => [fault.message]
  | .notRecord => ["Sugar must be a JSON object"]
  | .refused fault => fault.message :: fault.conflicts.map (" - " ++ ·)

/-- The aliases after those of a JSON text were added. -/
def addAliases (aliases : AliasTable) (json : String) : Except SugarFault AliasTable :=
  match Json.read json with
  | .error fault => .error (.malformed fault)
  | .ok (.record fields) => (aliases.configure (.ofFields fields)).mapError .refused
  | .ok _ => .error .notRecord

/-- `handle_sugar_command`: adds the aliases of a JSON text. -/
def configure (s : Shell) (json : String) : Turn :=
  match addAliases s.aliases json with
  | .error fault =>
    ⟨.lines ("[error] >>> Failed to configure sugar aliases:" :: fault.lines), s, none⟩
  | .ok aliases =>
    ⟨.lines ["[ok] >>> Sugar aliases updated.", aliases.additionsListing], { s with aliases }, none⟩

/-! ## Wishes -/

/-- A sample in one line: its name and its first line. -/
def sampleLine (sample : String × String) : String :=
  s!"{alignRight 10 sample.1} → {firstLine sample.2}"

/-- Resets the engine. -/
def reset (s : Shell) : Turn :=
  match s.engine.reset none with
  | (.error error, engine) => ⟨.nothing, { s with engine }, some error⟩
  | (.ok _, engine) => ⟨.line "[ok] >>> Turtle reset.", { s with engine }, none⟩

/-- `start_repl`, the dispatch: does what is asked for. -/
def fulfil (s : Shell) : Wish → Turn
  | .nothing => ⟨.nothing, s, none⟩
  | .toggleVerbose =>
    let mode := if s.verbose then "OFF" else "ON"
    ⟨.line s!"[mode] >>> Verbose mode {mode}", { s with verbose := !s.verbose }, none⟩
  | .state => ⟨.line s.engine.stateLine, s, none⟩
  | .reset => s.reset
  | .samples => ⟨.lines (samples.map sampleLine), s, none⟩
  | .sample name =>
    match sample? name with
    | none => ⟨.line s!"[error] >>> No sample named: {name}", s, none⟩
    | some text => s.runSource text
  | .listAliases => ⟨.line (s.aliases.listing true), s, none⟩
  | .addAliases json => s.configure json
  | .program text => s.runSource text

/-! ## Lines -/

/-- What asks for the next line. -/
def prompt (s : Shell) : String :=
  if s.chunk.lines.isEmpty then ">>> " else "... "

/-- `start_repl`, one line of input: what the shell does with it; nothing when it is left. It can
only be left between two chunks. -/
def feed (s : Shell) (line : String) : Option Turn :=
  if s.chunk.lines.isEmpty && isFarewell line then none
  else
    let chunk := s.chunk.add line
    if chunk.complete then some ({ s with chunk := .empty }.fulfil (.ofText chunk.text))
    else some ⟨.nothing, { s with chunk }, none⟩

/-- What is printed when the shell is left. -/
def farewell : String := "Exiting Tortuga REPL."

/-- `start_repl`, the loop: feeds lines to a shell until it is left, an error ends it or there are
no more. -/
def converse (s : Shell) : List String → Output × Except EngineError Unit
  | [] => (.lines [s.prompt, farewell], .ok ())
  | line :: rest =>
    match s.feed line with
    | none => (.line (s.prompt ++ farewell), .ok ())
    | some turn =>
      let said := .text s.prompt ++ turn.output
      match turn.escaped with
      | some error => (said, .error error)
      | none =>
        let (more, ending) := turn.shell.converse rest
        (said ++ more, ending)

/-! ## Opening -/

/-- `SUGAR_PATH_ENV`: the name of the variable that gives the path of an alias file. -/
def sugarVariable : String := "TORTUGA_SUGAR_PATH"

/-- `load_sugar_from_env`: adds the aliases of the file that the variable gives, if it gives one. -/
def loadAliases (aliases : AliasTable) (files : Files) (path : String) : Output × AliasTable :=
  if path.isEmpty then (.nothing, aliases)
  else
    match aliases.load files path with
    | .ok loaded => (.line s!"[ok] >>> Loaded sugar from env: {path}", loaded)
    | .error fault =>
      (.line s!"[error] >>> Failed to load from {sugarVariable}: {fault.message}", aliases)

/-- A new shell. `path` is the value of the variable, empty when it is not set. -/
def begin (files : Files) (path : String) (verbose logging : Bool) : Except EngineError Turn :=
  match Engine.create { speed := .whole consoleSpeed } with
  | .error error => .error error
  | .ok engine =>
    let (loading, aliases) := loadAliases .standard files path
    .ok ⟨.line "Tortuga REPL. Type 'exit' or 'quit' to leave." ++ loading,
      ⟨engine, aliases, verbose, logging, .empty⟩, none⟩

/-- `start_repl`: a whole conversation. -/
def run (files : Files) (path : String) (verbose logging : Bool) (input : List String) :
    Output × Except EngineError Unit :=
  match begin files path verbose logging with
  | .error error => (.nothing, .error error)
  | .ok opening =>
    let (output, ending) := opening.shell.converse input
    (opening.output ++ output, ending)

end Shell

end TurtleScript
