import TurtleScript.Text.Blank

/-!
Line breaks of text files. A file may end its lines with a carriage return, a line feed or both;
the program only ever sees line feeds.
-/
namespace TurtleScript.Text

/-- A text with every line break written as a line feed. -/
def unifyBreaks : List Char → List Char
  | '\r' :: '\n' :: rest => '\n' :: unifyBreaks rest
  | '\r' :: rest => '\n' :: unifyBreaks rest
  | c :: rest => c :: unifyBreaks rest
  | [] => []

/-- The lines of a text that is read line by line; the last one need not be ended. -/
def inputLines (s : String) : List String :=
  let parts := (splitChars '\n' s.toList).map String.ofList
  if parts.getLast? = some "" then parts.dropLast else parts

/-- The first line of a text. -/
def firstLine (s : String) : String :=
  String.ofList (s.toList.takeWhile (· ≠ '\n'))

end TurtleScript.Text
