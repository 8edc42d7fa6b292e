import TurtleScript.Language.Command
import TurtleScript.Text.Quoted

/-!
What the reader of programs complains about. A diagnostic is a cause, whether it arose inside a
repetition, and the line it concerns; its wording is decided here and nowhere else.
-/
namespace TurtleScript

open Text

/-- Why a piece of a program is refused. -/
inductive Cause where
  /-- A closing bracket without an opening one. -/
  | unmatchedClose
  /-- A token that is no command. -/
  | unknownCommand (text : String)
  /-- A command without its number. -/
  | needsNumber (kind : Kind)
  /-- A repetition without its count. -/
  | needsCount
  /-- A count that is not whole or not in range. -/
  | countOutOfRange
  /-- A repetition whose count is not followed by an opening bracket. -/
  | needsOpening
  /-- A body that is not closed. -/
  | missingClose
  /-- A body without tokens. -/
  | emptyBody
  /-- A keyword for something that is no command. -/
  | unknownTarget (word : String) (kind : Kind)
deriving Repr, DecidableEq

/-- The wording for a keyword that stands for no command. -/
def unknownTargetMessage (word : String) (kind : Kind) : String :=
  s!"keyword {quoted word} maps to unknown command {quoted kind.name}"

/-- The wording of a cause. -/
def Cause.message : Cause → String
  | .unmatchedClose => "Unexpected ']' without matching '['"
  | .unknownCommand text => s!"Unknown command: {text}"
  | .needsNumber kind => s!"{kind.name} command requires a number"
  | .needsCount => "REPEAT command requires a count"
  | .countOutOfRange =>
    s!"REPEAT count must be a whole number between {Command.leastCount} and {Command.greatestCount}"
  | .needsOpening => "REPEAT requires '[' after the count"
  | .missingClose => "REPEAT is missing a closing ']'"
  | .emptyBody => "REPEAT body cannot be empty"
  | .unknownTarget word kind => s!"Unexpected error: {unknownTargetMessage word kind}"

/-- `INNER_ERROR_PREFIX`: what stands in front of a complaint about the inside of a repetition. -/
def innerMark : String := "Error inside REPEAT: "

/-- A complaint about a program. -/
structure Diagnostic where
  /-- Why the piece is refused. -/
  cause : Cause
  /-- Whether it arose inside a repetition, at any depth. -/
  inner : Bool
  /-- The line it concerns, if known. -/
  line : Option Int
deriving Repr, DecidableEq

/-- The wording of a diagnostic: the mark stands once, however deep it arose. -/
def Diagnostic.message (d : Diagnostic) : String :=
  if d.inner then innerMark ++ d.cause.message else d.cause.message

/-- `Parser.parse_repeat`, what it makes of the first complaint about a body: a diagnostic seen from
outside the repetition where it arose. The flag stands for the test whether the wording starts with
the mark; `report_fromInside` says that it gives the same wording. -/
def Diagnostic.fromInside (d : Diagnostic) : Diagnostic :=
  { d with inner := true }

/-- `ParseError`: a complaint in its final wording. -/
structure Report where
  /-- The wording. -/
  message : String
  /-- The line it concerns, if known. -/
  line : Option Int
deriving Repr, DecidableEq

/-- A diagnostic in its final wording. -/
def Diagnostic.report (d : Diagnostic) : Report :=
  ⟨d.message, d.line⟩

/-- A complaint with the text of the line it concerns. -/
def Report.worded (r : Report) : Option String → String
  | none => r.message
  | some line => s!"line {line}: {r.message}"

/-- `ParseError.__str__`: a complaint as it is printed, if its line is not too long to be written. -/
def Report.printed (r : Report) : Except NumberFault String :=
  (r.line.mapM wholeText).map r.worded

/-- `ParseError.__repr__`: a complaint as listings show it. -/
def Report.shown (r : Report) : Except NumberFault String := do
  match ← r.line.mapM wholeText with
  | none => return s!"ParseError({quoted r.message})"
  | some line => return s!"ParseError({quoted r.message}, line={line})"

/-- `ParsedProgram.__repr__`: a program and its complaints as listings show them. -/
def programListing (commands : List Command) (reports : List Report) :
    Except NumberFault String := do
  let text ← Command.shownAll commands
  let errors ← reports.mapM Report.shown
  return s!"ParsedProgram(commands={text}, errors=[{commaList errors}])"

end TurtleScript
