import TurtleScript.Number.Basic
import TurtleScript.Number.Literal
import TurtleScript.Text.Blank
import TurtleScript.Text.Quoted

/-!
Numbers written by a person: in a start position, a level file or an option. Blanks around the
number are ignored, single underscores may stand between its digits, and a real number may be an
infinity or not a number.
-/
namespace TurtleScript

open Text

/-- Why a text is not the number it should be. -/
inductive NumeralFault where
  /-- Not the text of a real number. -/
  | notReal (text : String)
  /-- Not the text of a whole number. -/
  | notWhole (text : String)
  /-- A whole number with more digits than are read. -/
  | tooManyDigits (count : Nat)
deriving Repr, DecidableEq

/-- The wording of a fault; a long text that is no whole number is cut after 200 characters. -/
def NumeralFault.message : NumeralFault → String
  | .notReal text => s!"could not convert string to float: {quoted text}"
  | .notWhole text =>
    let shown := String.ofList ((quotedChars text.toList).take 200)
    s!"invalid literal for int() with base 10: {shown}"
  | .tooManyDigits count =>
    s!"Exceeds the limit ({maxWholeDigits} digits) for integer string conversion: " ++
      s!"value has {count} digits; use sys.set_int_max_str_digits() to increase the limit"

namespace Reading

/-- Blanks around a number: all but the four separator controls. -/
def isMargin (c : Char) : Bool :=
  isBlank c && !(0x1C ≤ c.toNat && c.toNat ≤ 0x1F)

/-- Whether every underscore stands between two digits; `afterDigit` tells what came before. -/
def underscoresSeparate (afterDigit : Bool) : List Char → Bool
  | [] => true
  | '_' :: next :: rest => afterDigit && isDecimalDigit next && underscoresSeparate true rest
  | '_' :: [] => false
  | c :: rest => underscoresSeparate (isDecimalDigit c) rest

/-- A text without its underscores, if each stands between two digits. -/
def joinDigits? (cs : List Char) : Option (List Char) :=
  if underscoresSeparate false cs then some (cs.filter (· ≠ '_')) else none

/-- The words for the numbers that are not finite. -/
def specialReal? (cs : List Char) : Option Float :=
  let (negative, word) := Literal.takeSign cs
  let lowered := String.ofList (word.map Char.toLower)
  if lowered = "inf" || lowered = "infinity" then some (Binary64.infinity negative)
  else if lowered = "nan" then some Binary64.nan
  else none

/-- The real number that a text denotes. -/
def real (text : String) : Except NumeralFault Float :=
  let found := do
    let cs ← joinDigits? (trimChars isMargin text.toList)
    match Literal.read? (fun c => c = 'e' || c = 'E') cs with
    | some literal => some literal.toFloat
    | none => specialReal? cs
  match found with
  | some value => .ok value
  | none => .error (.notReal text)

/-- The whole number that a text denotes. A run of digits that is too long is refused before what
follows it is looked at. -/
def whole (text : String) : Except NumeralFault Int :=
  let (negative, unsigned) := Literal.takeSign (text.toList.dropWhile isMargin)
  let inRun (c : Char) : Bool := isDecimalDigit c || c = '_'
  match joinDigits? (unsigned.takeWhile inRun) with
  | none | some [] => .error (.notWhole text)
  | some digits =>
    if digits.length > maxWholeDigits then .error (.tooManyDigits digits.length)
    else if (unsigned.dropWhile inRun).all isMargin then
      let value := Int.ofNat (digitsValue (Literal.takeDigits digits).1)
      .ok (if negative then -value else value)
    else .error (.notWhole text)

end Reading

end TurtleScript
