import TurtleScript.Console.Run
import TurtleScript.Number.Reading

/-!
Command-line arguments. Every argument is first looked at by itself: it is an operand, the separator
after which all are operands, an option, or something that looks like an option and is none. Then
they are taken from left to right: a setting takes the operand after it, the first other operand is
the source, and what is left over is refused at the end. The separator is never a value: a setting
that is assigned it has none.
-/
namespace TurtleScript

open Text

/-! ## Options -/

/-- Options without a value. -/
inductive Switch where
  /-- Print the help and end. -/
  | help
  /-- The source is the program itself. -/
  | string
  /-- Print the outcome as JSON. -/
  | json
  /-- Start the shell. -/
  | repl
  /-- Switch the log on. -/
  | verbose
deriving Repr, DecidableEq

/-- Options with a value. -/
inductive Setting where
  /-- The delay after a step. -/
  | speed
  /-- The start position. -/
  | start
  /-- The obstacle file. -/
  | obstacles
  /-- The alias file. -/
  | sugar
deriving Repr, DecidableEq

/-- An option. -/
inductive LaunchOption where
  /-- One without a value. -/
  | switch (s : Switch)
  /-- One with a value. -/
  | setting (s : Setting)
deriving Repr, DecidableEq

/-- The spellings of the options in their order. -/
def optionSpellings : List (String × LaunchOption) :=
  [("-h", .switch .help), ("--help", .switch .help), ("-s", .switch .string),
    ("--string", .switch .string), ("--speed", .setting .speed), ("--start", .setting .start),
    ("--obstacles", .setting .obstacles), ("--sugar", .setting .sugar), ("--json", .switch .json),
    ("--repl", .switch .repl), ("--verbose", .switch .verbose)]

/-- The switch of a letter. -/
def switchOfLetter? (letter : Char) : Option Switch :=
  if letter = 'h' then some .help else if letter = 's' then some .string else none

/-- The option of a spelling. -/
def optionOf? (spelling : String) : Option LaunchOption :=
  optionSpellings.lookup spelling

/-- All spellings of an option, as diagnostics name it. -/
def LaunchOption.name (o : LaunchOption) : String :=
  String.intercalate "/" ((optionSpellings.filter fun entry => entry.2 = o).map Prod.fst)

/-! ## Diagnostics -/

/-- Why arguments are not understood. -/
inductive UsageFault where
  /-- A beginning of several options. -/
  | ambiguous (argument : String) (spellings : List String)
  /-- A setting without a value. -/
  | needsValue (setting : Setting)
  /-- A switch with a value. -/
  | needlessValue (switch : Switch) (value : String)
  /-- A speed that is no whole number. -/
  | notWhole (value : String)
  /-- Arguments that nothing takes. -/
  | leftOver (arguments : List String)
deriving Repr, DecidableEq

/-- The wording of a fault. -/
def UsageFault.message : UsageFault → String
  | .ambiguous argument spellings =>
    s!"ambiguous option: {argument} could match {commaList spellings}"
  | .needsValue setting => s!"argument {(LaunchOption.setting setting).name}: expected one argument"
  | .needlessValue switch value =>
    s!"argument {(LaunchOption.switch switch).name}: ignored explicit argument {quoted value}"
  | .notWhole value =>
    s!"argument {(LaunchOption.setting .speed).name}: invalid int value: {quoted value}"
  | .leftOver arguments => "unrecognized arguments: " ++ String.intercalate " " arguments

/-! ## Arguments by themselves -/

/-- What an argument is by itself. -/
inductive Argument where
  /-- A value of a setting, or the source. -/
  | operand (text : String)
  /-- The separator. -/
  | separator
  /-- A switch. -/
  | switch (s : Switch)
  /-- A setting whose value follows. -/
  | setting (s : Setting)
  /-- A setting and its value. -/
  | assigned (s : Setting) (value : String)
  /-- A switch and a value that it does not take. -/
  | needless (s : Switch) (value : String)
  /-- A switch given by its letter, and further letters after it. -/
  | cluster (s : Switch) (letters : List Char)
  /-- It looks like an option. -/
  | unknown (text : String)
deriving Repr, DecidableEq

/-- The separator's spelling. -/
def separatorText : String := "--"

/-- A text before and after its first equals sign, if it has one. -/
def splitAssignment? (cs : List Char) : Option (String × String) :=
  let before := cs.takeWhile (· ≠ '=')
  match cs.dropWhile (· ≠ '=') with
  | [] => none
  | _ :: value => some (String.ofList before, String.ofList value)

/-- An option with a value that follows an equals sign. -/
def Argument.assign (o : LaunchOption) (value : String) : Argument :=
  match o with
  | .switch s => .needless s value
  | .setting s => .assigned s value

/-- An option, spelled in full, with a value that follows an equals sign. A value of a letter's
switch is taken for further letters. -/
def Argument.assignSpelled (spelling : String) (o : LaunchOption) (value : String) : Argument :=
  match o, value.toList with
  | .switch s, letter :: letters =>
    if spelling.length = 2 then .cluster s (letter :: letters) else .needless s value
  | _, _ => .assign o value

/-- An option by itself. -/
def Argument.ofOption : LaunchOption → Argument
  | .switch s => .switch s
  | .setting s => .setting s

/-- Whether characters are the digits of a negative number after its sign: digits, or a point with
digits after it. A line break may follow. -/
def looksNegative (cs : List Char) : Bool :=
  let cs := if cs.getLast? = some '\n' then cs.dropLast else cs
  match cs.dropWhile isDecimalDigit with
  | [] => !cs.isEmpty
  | '.' :: fraction => !fraction.isEmpty && fraction.all isDecimalDigit
  | _ => false

/-- An argument that starts with a dash and is no option. -/
def Argument.ofDashed (text : String) : Argument :=
  if looksNegative (text.toList.drop 1) || text.toList.contains ' ' then .operand text
  else .unknown text

/-- An argument that starts with two dashes and is no full spelling of an option: the beginning of
one option stands for it. -/
def Argument.ofBeginning (text : String) : Except UsageFault Argument :=
  let (beginning, value?) :=
    match splitAssignment? text.toList with
    | none => (text, none)
    | some (beginning, value) => (beginning, some value)
  match optionSpellings.filter fun entry => beginning.toList.isPrefixOf entry.1.toList with
  | [] => .ok (.ofDashed text)
  | [(_, o)] => .ok (value?.elim (.ofOption o) (.assign o))
  | several => .error (.ambiguous text (several.map Prod.fst))

/-- What an argument is by itself. -/
def Argument.ofText (text : String) : Except UsageFault Argument :=
  match optionOf? text with
  | some o => .ok (.ofOption o)
  | none =>
    match text.toList with
    | '-' :: second :: rest =>
      match (splitAssignment? text.toList).bind fun (spelling, value) =>
          (optionOf? spelling).map fun o => Argument.assignSpelled spelling o value with
      | some argument => .ok argument
      | none =>
        if second = '-' then Argument.ofBeginning text
        else
          match switchOfLetter? second with
          | some s => .ok (.cluster s rest)
          | none => .ok (.ofDashed text)
    | _ => .ok (.operand text)

/-- What the arguments are by themselves. -/
def argumentsOf : List String → Except UsageFault (List Argument)
  | [] => .ok []
  | text :: rest =>
    if text = separatorText then .ok (.separator :: rest.map .operand)
    else
      match Argument.ofText text with
      | .error fault => .error fault
      | .ok argument => (argumentsOf rest).map (argument :: ·)

/-- An argument as it was given; only those that can be left over matter. -/
def Argument.text : Argument → String
  | .operand text => text
  | .unknown text => text
  | _ => separatorText

/-! ## Arguments in order -/

/-- What the arguments ask for. -/
structure Settings where
  /-- The program, or the path of its file. -/
  source : Option String := none
  /-- Whether the source is the program itself. -/
  isText : Bool := false
  /-- The delay after a step, in milliseconds; none when the option has no value. -/
  speed : Option Int := some consoleSpeed
  /-- The start position. -/
  start : Option String := none
  /-- The obstacle file. -/
  obstacles : Option String := none
  /-- The alias file. -/
  sugar : Option String := none
  /-- Whether the outcome is printed as JSON. -/
  json : Bool := false
  /-- Whether the shell is started. -/
  repl : Bool := false
  /-- Whether the log is switched on. -/
  verbose : Bool := false
deriving Repr, DecidableEq

/-- What taking arguments leads to. -/
inductive Taken where
  /-- The help is asked for. -/
  | help
  /-- Settings, and arguments that nothing took. -/
  | settings (settings : Settings) (left : List String)
deriving Repr, DecidableEq

namespace Settings

/-- Settings after a switch. -/
def switchOn (s : Settings) : Switch → Settings
  | .help => s
  | .string => { s with isText := true }
  | .json => { s with json := true }
  | .repl => { s with repl := true }
  | .verbose => { s with verbose := true }

/-- Settings after a value was assigned. -/
def assign (s : Settings) (setting : Setting) (value : String) : Except UsageFault Settings :=
  let given := if value = separatorText then none else some value
  match setting with
  | .speed =>
    match given.mapM Reading.whole with
    | .ok speed => .ok { s with speed }
    | .error _ => .error (.notWhole value)
  | .start => .ok { s with start := given }
  | .obstacles => .ok { s with obstacles := given }
  | .sugar => .ok { s with sugar := given }

end Settings

/-- The switches of a cluster: a switch and the letters after it. The letters from the first one on
that is no switch are a value that the switch before them does not take. -/
def clusterSwitches (s : Switch) : List Char → Except UsageFault (List Switch)
  | [] => .ok [s]
  | letter :: rest =>
    match switchOfLetter? letter with
    | none => .error (.needlessValue s (String.ofList (letter :: rest)))
    | some next => (clusterSwitches next rest).map (s :: ·)

/-- Takes arguments from left to right. -/
def takeArguments (s : Settings) (left : List String) : List Argument → Except UsageFault Taken
  | [] => .ok (.settings s left)
  | .operand text :: rest =>
    if s.source.isNone then
      match rest with
      | .separator :: operands =>
        .ok (.settings { s with source := some text } (left ++ operands.map Argument.text))
      | _ => takeArguments { s with source := some text } left rest
    else takeArguments s (left ++ [text]) rest
  | .separator :: rest =>
    if s.source.isNone then
      match rest with
      | [] => .ok (.settings s left)
      | operand :: operands =>
        .ok (.settings { s with source := some operand.text } (left ++ operands.map Argument.text))
    else .ok (.settings s (left ++ separatorText :: rest.map Argument.text))
  | .unknown text :: rest => takeArguments s (left ++ [text]) rest
  | .switch .help :: _ => .ok .help
  | .switch switch :: rest => takeArguments (s.switchOn switch) left rest
  | .needless switch value :: _ => .error (.needlessValue switch value)
  | .cluster switch letters :: rest =>
    match clusterSwitches switch letters with
    | .error fault => .error fault
    | .ok switches =>
      if switches.contains .help then .ok .help
      else takeArguments (switches.foldl Settings.switchOn s) left rest
  | .assigned setting value :: rest =>
    match s.assign setting value with
    | .error fault => .error fault
    | .ok s => takeArguments s left rest
  | .setting setting :: .operand value :: rest =>
    match s.assign setting value with
    | .error fault => .error fault
    | .ok s => takeArguments s left rest
  | .setting setting :: _ => .error (.needsValue setting)

/-- What a command line asks for. -/
inductive Request where
  /-- The help. -/
  | help
  /-- A run or a shell. -/
  | settings (settings : Settings)
deriving Repr, DecidableEq

/-- What a command line asks for. -/
def readArguments (arguments : List String) : Except UsageFault Request :=
  match argumentsOf arguments with
  | .error fault => .error fault
  | .ok pieces =>
    match takeArguments {} [] pieces with
    | .error fault => .error fault
    | .ok .help => .ok .help
    | .ok (.settings s []) => .ok (.settings s)
    | .ok (.settings _ left) => .error (.leftOver left)

/-! ## Help -/

/-- How the program is called. -/
def usageText : String :=
  "usage: tortuga [-h] [-s] [--speed SPEED] [--start X,Y[,ANGLE]]\n" ++
    "               [--obstacles FILE] [--sugar FILE] [--json] [--repl] [--verbose]\n" ++
    "               [source]"

/-- One argument and what it does. -/
def helpLine (entry : String × String) : String :=
  s!"  {alignLeft 19 entry.1}  {entry.2}"

/-- What the program is called with. -/
def helpText : String :=
  lines (
    [usageText, "", "positional arguments:",
      helpLine ("source", "Filename or raw source (with -s)"), "", "options:"] ++
    [("-h, --help", "show this help message and exit"),
      ("-s, --string", "Interpret source as literal string"),
      ("--speed SPEED", "Milliseconds per step (10-1000)"),
      ("--start X,Y[,ANGLE]", "Start position"),
      ("--obstacles FILE", "JSON list of obstacle rectangles"),
      ("--sugar FILE", "JSON command alias file"),
      ("--json", "Print a JSON report"),
      ("--repl", "Launch interactive REPL instead"),
      ("--verbose", "Debug logging")].map helpLine)

/-- What is printed when arguments are not understood. -/
def UsageFault.report (fault : UsageFault) : Output :=
  .errorLines [usageText, s!"tortuga: error: {fault.message}"]

end TurtleScript
