import TurtleScript.Language.Lexer
import TurtleScript.Language.Step

/-!
From tokens to a program: steps are made until the end, or until one stays where it is.
-/
namespace TurtleScript

/-- `Parser.parse`, the loop: the steps that read a stream to its end. A step that stays where it is
is the last one. -/
def readSteps (keywords : Keywords) (s : TokenStream) : List Step :=
  if _ended : s.atEnd = true then []
  else
    let step := stepCommand keywords s fun body _ => readSteps keywords (.ofList body)
    if _stays : step.stays = true then [step]
    else step :: readSteps keywords step.next
termination_by s.rest.length
decreasing_by
  · assumption
  · exact stepCommand_next_lt keywords s _ (by simpa using _ended) (by simpa using _stays)

/-! ## Programs -/

/-- `ParsedProgram`: a program and the complaints about it. With complaints the commands may be only
part of what was meant. -/
structure Program where
  /-- The commands that were read. -/
  commands : List Command
  /-- The complaints, in the order in which they arose. -/
  errors : List Diagnostic

/-- `ParsedProgram.ok`: whether a program may be run. -/
def Program.ok (p : Program) : Bool :=
  p.errors.isEmpty

/-- The complaints in their final wording. -/
def Program.reports (p : Program) : List Report :=
  p.errors.map Diagnostic.report

/-- A program as listings show it. -/
def Program.listing (p : Program) : Except NumberFault String :=
  programListing p.commands p.reports

/-- `parse`: the program that a list of tokens spells. -/
def readTokens (keywords : Keywords) (tokens : List Token) : Program :=
  let steps := readSteps keywords (.ofList tokens)
  ⟨commandsOf steps, diagnosticsOf steps⟩

/-- `parse_program`: the program that a text spells. -/
def readProgram (keywords : Keywords) (text : String) : Program :=
  readTokens keywords (tokens text)

/-- The readings that a text needs, innermost first and the whole text last. -/
def readingPasses (keywords : Keywords) (text : String) : List Pass :=
  passesOf (readSteps keywords (.ofList (tokens text)))

end TurtleScript
