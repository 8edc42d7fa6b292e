import TurtleScript.Console.Launch

/-!
The program as a process: files are read from disk, lines from the input stream, and all that is
decided is decided by the plan and the shell.
-/
namespace TurtleScript

/-- The octets of a file on disk. -/
def readOctets (path : String) : IO (Except FileFault (List Nat)) := do
  if path.toList.contains '\x00' then return .error .nullInPath
  try
    let octets ← IO.FS.readBinFile path
    return .ok (octets.toList.map UInt8.toNat)
  catch error =>
    match error with
    | .inappropriateType _ code _ =>
      return .error (if code = 21 then .directory path else .notDirectory path)
    | .invalidArgument _ code _ =>
      return .error (if code = 36 then .nameTooLong path else .missing path)
    | _ => return .error (.missing path)

/-- The files at some paths; nothing is anywhere else. -/
def readFiles (paths : List String) : IO Files := do
  let entries ← paths.mapM fun path => return (path, ← readOctets path)
  return fun path => (entries.lookup path).getD (.error (.missing path))

/-- Prints on both streams. -/
def Output.print (output : Output) : IO Unit := do
  let out ← IO.getStdout
  let err ← IO.getStderr
  out.putStr output.out
  out.flush
  err.putStr output.err
  err.flush

/-- Tells of an abrupt end. -/
def abrupt (message : String) : IO UInt32 := do
  Output.print (.errorLine message)
  return 1

/-- Feeds the lines of the input stream to a shell. -/
partial def talk (shell : Shell) : IO UInt32 := do
  Output.print (.text shell.prompt)
  let line ← (← IO.getStdin).getLine
  if line.isEmpty then
    Output.print (.lines ["", Shell.farewell])
    return 0
  match shell.feed (Text.firstLine line) with
  | none =>
    Output.print (.line Shell.farewell)
    return 0
  | some turn =>
    Output.print turn.output
    match turn.escaped with
    | some error => abrupt error.message
    | none => talk turn.shell

/-- Runs what arguments lead to, and gives the exit code. -/
def runProcess (arguments : List String) : IO UInt32 := do
  match plan arguments with
  | .finish output status =>
    output.print
    return status.code.toUInt32
  | .shell verbose =>
    let path := (← IO.getEnv Shell.sugarVariable).getD ""
    match Shell.begin (← readFiles [path]) path verbose verbose with
    | .error error => abrupt error.message
    | .ok opening =>
      opening.output.print
      talk opening.shell
  | .run settings source =>
    let files ← readFiles (source :: (settings.obstacles.toList ++ settings.sugar.toList))
    let (output, ending) := settings.runSource files source
    output.print
    match ending with
    | .error fault => abrupt fault.message
    | .ok status => return status.code.toUInt32

end TurtleScript

/-- Runs the program with the arguments of the process. -/
def main (arguments : List String) : IO UInt32 :=
  TurtleScript.runProcess arguments
