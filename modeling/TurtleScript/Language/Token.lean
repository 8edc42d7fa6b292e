import TurtleScript.Text.Blank
import TurtleScript.Text.Case

/-!
Tokens: words and square brackets, with the place where they start. A list of tokens may also be
given by hand, with shapes the language does not use; the reader of programs treats those as things
it does not know.
-/
namespace TurtleScript

open Text

/-- What sort of token it is. -/
inductive Shape where
  /-- A word or a number. -/
  | word
  /-- An opening bracket. -/
  | opening
  /-- A closing bracket. -/
  | closing
  /-- The end of the program. -/
  | ending
  /-- A shape the language does not use. -/
  | other (name : String)
deriving Repr, DecidableEq

/-- The name of a shape. -/
def Shape.name : Shape → String
  | .word => "WORD"
  | .opening => "LBRACK"
  | .closing => "RBRACK"
  | .ending => "EOF"
  | .other name => name

/-- The shape of a name. -/
def Shape.ofName (name : String) : Shape :=
  match [Shape.word, .opening, .closing, .ending].find? fun shape => shape.name = name with
  | some shape => shape
  | none => .other name

/-- A word or bracket of a program. -/
structure Token where
  /-- What sort of token it is. -/
  shape : Shape
  /-- Its text; words are in upper case. -/
  text : String
  /-- Line of its first character, zero when unknown. -/
  line : Int
  /-- Column of its first character, zero when unknown. -/
  column : Int
deriving Repr, DecidableEq

/-- What stands after the last token. -/
def Token.ending : Token :=
  ⟨.ending, "EOF", 0, 0⟩

/-- The shape of a token's text. -/
def Shape.ofText (text : String) : Shape :=
  if text = "[" then .opening else if text = "]" then .closing else .word

/-- `Token.from_text`: the token of an already separated text, at no known place. -/
def Token.ofText (text : String) : Token :=
  let value := upper text
  ⟨.ofText value, value, 0, 0⟩

/-- A token as listings show it. -/
def Token.shown (t : Token) : String :=
  s!"Token({t.shape.name}, {t.text})"

/-- `COMMENT_CHARS`: the characters that start a comment. -/
def commentMarks : List Char := ['#', ';']

/-- Whether a comment starts with this character. -/
def isCommentMark (c : Char) : Bool :=
  commentMarks.contains c

/-- Whether a character is a bracket. -/
def isBracket (c : Char) : Bool :=
  c = '[' || c = ']'

/-- `ends_word`: whether a word ends before this character. -/
def endsWord (c : Char) : Bool :=
  isBlank c || isBracket c || isCommentMark c

end TurtleScript
