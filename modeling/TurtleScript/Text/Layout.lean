/-!
Columns and joined lists of texts. A column's width counts characters, and a longer text is kept
whole.
-/
namespace TurtleScript.Text

/-- A text moved to the right end of a column. -/
def alignRight (width : Nat) (s : String) : String :=
  String.ofList (List.replicate (width - s.length) ' ') ++ s

/-- A text at the left end of a column. -/
def alignLeft (width : Nat) (s : String) : String :=
  s ++ String.ofList (List.replicate (width - s.length) ' ')

/-- Texts with a comma and a space between them. -/
def commaList (parts : List String) : String :=
  String.intercalate ", " parts

/-- Texts one to a line, without a line break at the end. -/
def lines (parts : List String) : String :=
  String.intercalate "\n" parts

end TurtleScript.Text
