import TurtleScript.Language.Parser

/-!
A reader that is driven piece by piece over one list of tokens. Its complaints accumulate over its
life; a keyword for something that is no command stops a single piece without changing the reader,
and ends the reading of the rest with a complaint.
-/
namespace TurtleScript

/-- `Parser`: a reader of one list of tokens. -/
structure Reader where
  /-- The words it knows. -/
  keywords : Keywords
  /-- What is left to read. -/
  stream : TokenStream
  /-- The complaints so far. -/
  errors : List Diagnostic

/-- A keyword for something that is no command. -/
structure UnknownTarget where
  /-- The keyword. -/
  word : String
  /-- What it stands for. -/
  kind : Kind

/-- The wording of the fault. -/
def UnknownTarget.message (t : UnknownTarget) : String :=
  unknownTargetMessage t.word t.kind

namespace Reader

/-- A reader at the start of a list of tokens. -/
def ofTokens (keywords : Keywords) (tokens : List Token) : Reader :=
  ⟨keywords, .ofList tokens, []⟩

/-- The current token. -/
def current (r : Reader) : Token :=
  r.stream.current

/-- Moves past the current token. -/
def advance (r : Reader) : Reader :=
  { r with stream := r.stream.advance }

/-- `Parser.skip_bad_argument`: moves past a word that is no keyword. -/
def skipArgument (r : Reader) : Reader :=
  { r with stream := r.stream.skipArgument r.keywords }

/-- `Parser.collect_block`: cuts out the block at the current token. -/
def takeBlock (r : Reader) : Block × Reader :=
  let block := r.stream.block
  (block, { r with stream := block.next })

/-- Takes the result of one step; the answer is its command, if it gave one. -/
def take (r : Reader) (step : Step) : Except UnknownTarget (Option Command × Reader) :=
  match step.outcome with
  | .command c => .ok (some c, { r with stream := step.next })
  | .refusal d => .ok (none, { r with stream := step.next, errors := r.errors ++ [d] })
  | .fault word kind _ => .error ⟨word, kind⟩

/-- The steps of a body. -/
def body (r : Reader) (tokens : List Token) : List Step :=
  readSteps r.keywords (.ofList tokens)

/-- `Parser.parse_command`: reads one command. -/
def readCommand (r : Reader) : Except UnknownTarget (Option Command × Reader) :=
  r.take (stepCommand r.keywords r.stream fun tokens _ => r.body tokens)

/-- `Parser.parse_repeat`: reads a repetition whose word is the current token. -/
def readRepeat (r : Reader) : Except UnknownTarget (Option Command × Reader) :=
  r.take (stepRepeat r.keywords r.stream fun tokens _ => r.body tokens)

/-- `Parser.parse_value_command`: reads a command of a kind with one number, whose word is the
current token. -/
def readValue (r : Reader) (kind : Kind) : Except UnknownTarget (Option Command × Reader) :=
  r.take (stepValue r.keywords kind r.stream)

/-- `Parser.parse`: reads all that is left; the program has all complaints of the reader's life. -/
def readAll (r : Reader) : Program × Reader :=
  let steps := readSteps r.keywords r.stream
  let errors := r.errors ++ diagnosticsOf steps
  (⟨commandsOf steps, errors⟩, { r with stream := leftBy r.stream steps, errors })

end Reader

end TurtleScript
