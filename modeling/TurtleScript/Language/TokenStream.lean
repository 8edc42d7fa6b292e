import TurtleScript.Language.Kind
import TurtleScript.Language.Token
import TurtleScript.Number.Literal

/-!
Streams of tokens, what a token means to the reader, and the blocks between brackets. A block is cut
out at the bracket that matches its opening one, and neither it nor what follows it is longer than
the stream it is cut from.
-/
namespace TurtleScript

/-! ## Streams -/

/-- The tokens that are left to read and how many were passed. -/
structure TokenStream where
  /-- Tokens passed so far. -/
  position : Nat
  /-- Tokens left. -/
  rest : List Token
deriving Repr, DecidableEq

namespace TokenStream

/-- The stream of a whole list. -/
def ofList (tokens : List Token) : TokenStream := ⟨0, tokens⟩

/-- `Parser.current`: the current token, the ending if none is left. -/
def current (s : TokenStream) : Token :=
  s.rest.headD .ending

/-- `Parser.advance`: the stream past the current token. -/
def advance (s : TokenStream) : TokenStream :=
  ⟨s.position + 1, s.rest.tail⟩

/-- Whether nothing is left to read. -/
def atEnd (s : TokenStream) : Bool :=
  s.current.shape = .ending

end TokenStream

/-- `Parser.is_keyword`: whether a token is a keyword. -/
def Keywords.has (keywords : Keywords) (t : Token) : Bool :=
  t.shape = .word && (keywords.lookup t.text).isSome

/-- What a token names, if it is a word of the table. -/
def Keywords.kind? (keywords : Keywords) (t : Token) : Option Kind :=
  if t.shape = .word then keywords.lookup t.text else none

/-- `Parser.number_value`: the value of a token that is a number. -/
def Token.number? (t : Token) : Option Float :=
  if t.shape = .word then wordNumber? t.text else none

/-- `Parser.error`, the line: the one that complaints about a token name. -/
def Token.knownLine (t : Token) : Option Int :=
  if t.line = 0 then none else some t.line

/-! ## Blocks -/

/-- `Parser.collect_block`, the loop: the tokens up to the bracket that closes a block in which
`depth` further brackets are open, whether it was found, and what is left after it. The end of the
program also ends the block. -/
def takeBlock (depth : Nat) : List Token → List Token × Bool × List Token
  | [] => ([], false, [])
  | t :: rest =>
    match t.shape, depth with
    | .ending, _ => ([], false, t :: rest)
    | .closing, 0 => ([], true, rest)
    | .closing, inner + 1 =>
      let (body, closed, after) := takeBlock inner rest
      (t :: body, closed, after)
    | .opening, _ =>
      let (body, closed, after) := takeBlock (depth + 1) rest
      (t :: body, closed, after)
    | _, _ =>
      let (body, closed, after) := takeBlock depth rest
      (t :: body, closed, after)

/-- A block cut out of a stream. -/
structure Block where
  /-- The tokens inside. -/
  body : List Token
  /-- Whether the closing bracket was found. -/
  closed : Bool
  /-- The stream after the block. -/
  next : TokenStream

/-- `Parser.collect_block`: cuts out the block whose opening bracket is the current token. -/
def TokenStream.block (s : TokenStream) : Block :=
  let inside := s.advance
  let (body, closed, after) := takeBlock 0 inside.rest
  ⟨body, closed, ⟨inside.position + body.length + (if closed then 1 else 0), after⟩⟩

/-- A block's body is not longer than the tokens it is cut from. -/
theorem takeBlock_length_le (depth : Nat) (tokens : List Token) :
    (takeBlock depth tokens).1.length ≤ tokens.length := by
  induction tokens generalizing depth with
  | nil => simp [takeBlock]
  | cons t rest ih =>
    unfold takeBlock
    split
    · simp
    · simp
    · simpa using ih _
    · simpa using ih _
    · simpa using ih _

/-! ## Lengths -/

/-- What is left after a block is not longer than the tokens it is cut from. -/
theorem takeBlock_rest_le (depth : Nat) (tokens : List Token) :
    (takeBlock depth tokens).2.2.length ≤ tokens.length := by
  induction tokens generalizing depth with
  | nil => simp [takeBlock]
  | cons t rest ih =>
    unfold takeBlock
    split
    · simp
    · simp
    · exact Nat.le_succ_of_le (ih _)
    · exact Nat.le_succ_of_le (ih _)
    · exact Nat.le_succ_of_le (ih _)

/-- Advancing does not add tokens. -/
theorem advance_rest_le (s : TokenStream) : s.advance.rest.length ≤ s.rest.length := by
  simp [TokenStream.advance]

/-- Advancing before the end leaves fewer tokens. -/
theorem advance_rest_lt (s : TokenStream) (more : s.atEnd = false) :
    s.advance.rest.length < s.rest.length := by
  obtain ⟨position, rest⟩ := s
  cases rest with
  | nil => simp [TokenStream.atEnd, TokenStream.current, Token.ending] at more
  | cons t rest => simp [TokenStream.advance]

/-- Cutting out a block does not add tokens. -/
theorem block_next_le (s : TokenStream) : s.block.next.rest.length ≤ s.rest.length :=
  Nat.le_trans (takeBlock_rest_le 0 s.advance.rest) (advance_rest_le s)

/-- A block inside a stream is shorter than the stream. -/
theorem block_body_lt (s : TokenStream) (opened : s.current.shape = .opening) :
    s.block.body.length < s.rest.length := by
  obtain ⟨position, rest⟩ := s
  cases rest with
  | nil => simp [TokenStream.current, Token.ending] at opened
  | cons t rest =>
    have bound := takeBlock_length_le 0 rest
    simp only [TokenStream.block, TokenStream.advance, List.tail_cons, List.length_cons]
    omega

/-- What follows the count is not longer than the repetition. -/
theorem advance_twice_le (s : TokenStream) :
    s.advance.advance.rest.length ≤ s.rest.length := by
  simp [TokenStream.advance]
  omega

end TurtleScript
