import TurtleScript.Language.Diagnostic
import TurtleScript.Language.TokenStream

/-!
One step of reading. It looks at the current token and either yields a command or a complaint and
moves on, or meets a keyword for something that is no command and stays. The body of a repetition is
cut out at its matching bracket and read by itself, and the first complaint about it becomes the one
complaint about the repetition.
-/
namespace TurtleScript

/-! ## Steps -/

/-- How many commands and complaints one reading of a token list gave. -/
structure Pass where
  /-- Commands at the top level. -/
  commands : Nat
  /-- Complaints. -/
  errors : Nat
deriving Repr, DecidableEq

/-- What one step gives. -/
inductive Outcome where
  /-- A command. -/
  | command (command : Command)
  /-- A complaint. -/
  | refusal (diagnostic : Diagnostic)
  /-- A keyword for something that is no command. -/
  | fault (word : String) (kind : Kind) (line : Option Int)

/-- The command of an outcome. -/
def Outcome.command? : Outcome → Option Command
  | .command c => some c
  | _ => none

/-- The complaint of an outcome. -/
def Outcome.diagnostic? : Outcome → Option Diagnostic
  | .command _ => none
  | .refusal d => some d
  | .fault word kind line => some ⟨.unknownTarget word kind, false, line⟩

/-- One step of reading. -/
structure Step where
  /-- What it gives. -/
  outcome : Outcome
  /-- The readings of bodies that it needed, innermost first. -/
  passes : List Pass
  /-- The stream it leaves. -/
  next : TokenStream

/-- A step that refuses the piece starting with a token. -/
def Step.refuse (cause : Cause) (t : Token) (next : TokenStream) : Step :=
  ⟨.refusal ⟨cause, false, t.knownLine⟩, [], next⟩

/-- The commands of steps. -/
def commandsOf (steps : List Step) : List Command :=
  steps.filterMap fun step => step.outcome.command?

/-- The complaints of steps. -/
def diagnosticsOf (steps : List Step) : List Diagnostic :=
  steps.filterMap fun step => step.outcome.diagnostic?

/-- The readings that steps needed, and their own one last. -/
def passesOf (steps : List Step) : List Pass :=
  steps.flatMap Step.passes ++ [⟨(commandsOf steps).length, (diagnosticsOf steps).length⟩]

/-- The stream that steps from `start` leave. -/
def leftBy (start : TokenStream) (steps : List Step) : TokenStream :=
  match steps.getLast? with
  | none => start
  | some step => step.next

/-- `Parser.skip_bad_argument`: a word in the place of an argument belongs to the failed command;
keywords and brackets are left for the next step. -/
def TokenStream.skipArgument (keywords : Keywords) (s : TokenStream) : TokenStream :=
  if s.current.shape = .word && !keywords.has s.current then s.advance else s

/-- The stream after a block, if one starts here. -/
def TokenStream.skipBlock (s : TokenStream) : TokenStream :=
  if s.current.shape = .opening then s.block.next else s

/-- `Parser.parse_value_command`: reads a command with one number; its word is the current token. -/
def stepValue (keywords : Keywords) (kind : Kind) (s : TokenStream) : Step :=
  let argument := s.advance
  match argument.current.number? with
  | none => .refuse (.needsNumber kind) s.current (argument.skipArgument keywords)
  | some value =>
    ⟨.command ⟨kind, some (.real value), [], s.current.line, s.current.column⟩, [],
      argument.advance⟩

/-- `Parser.parse_repeat`, the check of the count: the number of repetitions that a value asks for,
if it is whole and in range. -/
def wholeCount? (value : Float) : Option Int :=
  match Binary64.whole? value with
  | some count => if Command.countAllowed count then some count else none
  | none => none

/-- `Parser.parse_repeat`: reads a repetition; its word is the current token. The steps of its body,
which is shorter than what is left, are given by `readBody`. -/
def stepRepeat (keywords : Keywords) (s : TokenStream)
    (readBody : (body : List Token) → body.length < s.rest.length → List Step) : Step :=
  let word := s.current
  let counted := s.advance
  match counted.current.number? with
  | none => .refuse .needsCount word (counted.skipArgument keywords).skipBlock
  | some value =>
    let opened := counted.advance
    match wholeCount? value with
    | none => .refuse .countOutOfRange word opened.skipBlock
    | some count =>
      if isOpen : opened.current.shape = .opening then
        let block := opened.block
        if !block.closed then .refuse .missingClose word block.next
        else if block.body.isEmpty then .refuse .emptyBody word block.next
        else
          let steps := readBody block.body
            (Nat.lt_of_lt_of_le (block_body_lt opened isOpen) (advance_twice_le s))
          let outcome :=
            match diagnosticsOf steps with
            | first :: _ => .refusal first.fromInside
            | [] =>
              .command ⟨.repetition, some (.whole count), commandsOf steps, word.line, word.column⟩
          ⟨outcome, passesOf steps, block.next⟩
      else .refuse .needsOpening word opened

/-- `Parser.parse_command`: reads one command at the current token. -/
def stepCommand (keywords : Keywords) (s : TokenStream)
    (readBody : (body : List Token) → body.length < s.rest.length → List Step) : Step :=
  let t := s.current
  if t.shape = .closing then .refuse .unmatchedClose t s.advance
  else
    match keywords.kind? t with
    | none => .refuse (.unknownCommand t.text) t s.advance
    | some kind =>
      if kind.takesNumber then stepValue keywords kind s
      else if kind.standsAlone then
        ⟨.command ⟨kind, none, [], t.line, t.column⟩, [], s.advance⟩
      else if kind = .repetition then stepRepeat keywords s readBody
      else ⟨.fault t.text kind t.knownLine, [], s⟩

/-! ## Progress -/

/-- Whether a step stays where it is: it met a keyword for something that is no command. -/
def Step.stays (step : Step) : Bool :=
  match step.outcome with
  | .fault _ _ _ => true
  | _ => false

/-- Skipping an argument does not add tokens. -/
theorem skipArgument_rest_le (keywords : Keywords) (s : TokenStream) :
    (s.skipArgument keywords).rest.length ≤ s.rest.length := by
  unfold TokenStream.skipArgument
  split
  · exact advance_rest_le s
  · exact Nat.le_refl _

/-- Skipping a block does not add tokens. -/
theorem skipBlock_rest_le (s : TokenStream) : s.skipBlock.rest.length ≤ s.rest.length := by
  unfold TokenStream.skipBlock
  split
  · exact block_next_le s
  · exact Nat.le_refl _

/-- Reading a command with a number leaves at most what follows its word. -/
theorem stepValue_next_le (keywords : Keywords) (kind : Kind) (s : TokenStream) :
    (stepValue keywords kind s).next.rest.length ≤ s.advance.rest.length := by
  unfold stepValue
  dsimp only
  split
  · exact skipArgument_rest_le keywords s.advance
  · exact advance_rest_le s.advance

/-- Reading a repetition leaves at most what follows its word. -/
theorem stepRepeat_next_le (keywords : Keywords) (s : TokenStream)
    (readBody : (body : List Token) → body.length < s.rest.length → List Step) :
    (stepRepeat keywords s readBody).next.rest.length ≤ s.advance.rest.length := by
  have counted := advance_rest_le s.advance
  have argument := skipArgument_rest_le keywords s.advance
  have afterArgument := skipBlock_rest_le (s.advance.skipArgument keywords)
  have afterCount := skipBlock_rest_le s.advance.advance
  have afterBody := block_next_le s.advance.advance
  unfold stepRepeat
  dsimp only [Step.refuse]
  repeat' split
  all_goals try dsimp only
  all_goals omega

/-- A step before the end that does not stay leaves fewer tokens. -/
theorem stepCommand_next_lt (keywords : Keywords) (s : TokenStream)
    (readBody : (body : List Token) → body.length < s.rest.length → List Step)
    (more : s.atEnd = false) (moves : (stepCommand keywords s readBody).stays = false) :
    (stepCommand keywords s readBody).next.rest.length < s.rest.length := by
  have advanced := advance_rest_lt s more
  unfold stepCommand at moves ⊢
  dsimp only at moves ⊢
  split
  · exact advanced
  · rename_i notClosing
    rw [if_neg notClosing] at moves
    split
    · exact advanced
    · rename_i kind found
      rw [found] at moves
      dsimp only at moves
      split
      · exact Nat.lt_of_le_of_lt (stepValue_next_le keywords kind s) advanced
      · rename_i notValue
        rw [if_neg notValue] at moves
        split
        · exact advanced
        · rename_i notAlone
          rw [if_neg notAlone] at moves
          split
          · exact Nat.lt_of_le_of_lt (stepRepeat_next_le keywords s readBody) advanced
          · rename_i notRepeat
            rw [if_neg notRepeat] at moves
            simp [Step.stays] at moves

end TurtleScript
