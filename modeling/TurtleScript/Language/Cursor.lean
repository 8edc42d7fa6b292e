import TurtleScript.Language.Lexer
import TurtleScript.Number.Basic

/-!
A cursor over program text, for reading it piece by piece. It may be set to any position; a position
before the text looks back from the end when a character is taken, and nothing but single
characters can be read there.
-/
namespace TurtleScript

open Text

/-- `CharacterStream`: a position in a text. -/
structure Cursor where
  /-- The whole text. -/
  source : List Char
  /-- Offset of the next character. -/
  position : Int
  /-- Line and column of the next character. -/
  place : Place

/-- Why no character is taken. -/
inductive CursorFault where
  /-- The whole text has been read, up to a line. -/
  | pastEnd (line : String)
  /-- The whole text has been read, and the line is too long to be told. -/
  | untold (fault : NumberFault)
  /-- The position is further before the end than the text is long. -/
  | beforeStart
deriving Repr, DecidableEq

/-- The wording of a fault. -/
def CursorFault.message : CursorFault → String
  | .pastEnd line => s!"read past end of program at line {line}"
  | .untold fault => fault.message
  | .beforeStart => "string index out of range"

/-- The fault at the end of a text. -/
def CursorFault.atEnd (line : Int) : CursorFault :=
  match wholeText line with
  | .error fault => .untold fault
  | .ok shown => .pastEnd shown

namespace Cursor

/-- The text from the cursor on. -/
def remaining (c : Cursor) : List Char :=
  if c.position < 0 then [] else c.source.drop c.position.toNat

/-- `CharacterStream.end_of_file`: whether the whole text has been read. -/
def atEnd (c : Cursor) : Bool :=
  Int.ofNat c.source.length ≤ c.position

/-- The cursor after a run of characters. -/
def pass (c : Cursor) (cs : List Char) : Cursor :=
  { c with position := c.position + Int.ofNat cs.length, place := c.place.over cs }

/-- `CharacterStream.peek`: the character some places ahead, if it is in the text. -/
def peek (c : Cursor) (offset : Int) : Option Char :=
  let target := c.position + offset
  if target < 0 then none else c.source[target.toNat]?

/-- `CharacterStream.next`: takes the next character. -/
def next (c : Cursor) : Except CursorFault (Char × Cursor) :=
  let index := if c.position < 0 then c.position + Int.ofNat c.source.length else c.position
  if c.atEnd then .error (.atEnd c.place.line)
  else if index < 0 then .error .beforeStart
  else
    match c.source[index.toNat]? with
    | some char => .ok (char, c.pass [char])
    | none => .error (.atEnd c.place.line)

/-- `Lexer.skip_whitespace`: moves past blanks and comments. -/
def skipGap (c : Cursor) : Cursor :=
  c.pass (splitGap false c.remaining).1

/-- `Lexer.skip_comment`: moves to the end of the line. -/
def skipComment (c : Cursor) : Cursor :=
  c.pass (c.remaining.takeWhile (· ≠ '\n'))

/-- `Lexer.read_word`: takes a word, in upper case; it may be empty. -/
def readWord (c : Cursor) : String × Cursor :=
  let word := (splitWord c.remaining).1
  (String.ofList (upperChars word), c.pass word)

/-- The cursor when only `rest` is left of the text. -/
def leave (c : Cursor) (rest : List Char) (place : Place) : Cursor :=
  { c with position := c.position + Int.ofNat (c.remaining.length - rest.length), place }

/-- `Lexer.next_token`: takes the next token; at the end it is the ending, again and again. -/
def nextToken (c : Cursor) : Token × Cursor :=
  let lexeme := nextLexeme c.place c.remaining
  (lexeme.token, c.leave lexeme.rest lexeme.after)

/-- `Lexer.tokens`: takes all remaining tokens. -/
def takeTokens (c : Cursor) : List Token × Cursor :=
  let (tokens, final) := lexFrom c.place c.remaining
  (tokens, c.leave [] final)

end Cursor

end TurtleScript
