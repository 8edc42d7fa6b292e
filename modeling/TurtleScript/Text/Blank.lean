/-!
Blank characters and what is cut at them: stripping a text, its first word, and the parts of a
comma-separated list.
-/
namespace TurtleScript.Text

/-- Blanks are the separators, the line breaks and the tabs, in every script. -/
def isBlank (c : Char) : Bool :=
  let code := c.toNat
  (0x9 ≤ code && code ≤ 0xD) || (0x1C ≤ code && code ≤ 0x20) || code == 0x85 || code == 0xA0 ||
    code == 0x1680 || (0x2000 ≤ code && code ≤ 0x200A) || code == 0x2028 || code == 0x2029 ||
    code == 0x202F || code == 0x205F || code == 0x3000

/-- A text without the characters at both ends that satisfy `cut`. -/
def trimChars (cut : Char → Bool) (cs : List Char) : List Char :=
  ((cs.dropWhile cut).reverse.dropWhile cut).reverse

/-- A text without the blanks at both ends. -/
def strip (s : String) : String :=
  String.ofList (trimChars isBlank s.toList)

/-- The parts of a text between the characters that equal `separator`; at least one. -/
def splitChars (separator : Char) : List Char → List (List Char)
  | [] => [[]]
  | c :: rest =>
    if c = separator then [] :: splitChars separator rest
    else
      match splitChars separator rest with
      | [] => [[c]]
      | part :: parts => (c :: part) :: parts

/-- The parts of a comma-separated text, without the blanks around them. -/
def commaParts (s : String) : List String :=
  (splitChars ',' s.toList).map fun part => String.ofList (trimChars isBlank part)

/-- What follows the first word of a text and the blanks after it. -/
def afterFirstWord (s : String) : String :=
  let word := s.toList.dropWhile isBlank
  String.ofList ((word.dropWhile fun c => !isBlank c).dropWhile isBlank)

end TurtleScript.Text
