import TurtleScript.Number.Binary64
import TurtleScript.Text.DecimalDigit

/-!
Decimal literals. A literal is an optional sign, digits of any script with an optional point among
or beside them, and an optional exponent; it denotes an exact decimal, and its value is the
double-precision number nearest to that.
-/
namespace TurtleScript

open Text

/-- The exact decimal `± digits * 10 ^ scale`. -/
structure Literal where
  /-- Whether a minus sign stands in front. -/
  negative : Bool
  /-- All digits around the point, read as one whole number. -/
  digits : Nat
  /-- The power of ten that the last digit counts. -/
  scale : Int
deriving Repr, DecidableEq

namespace Literal

/-- Takes a sign off the front; the flag says whether it was a minus. -/
def takeSign : List Char → Bool × List Char
  | '-' :: rest => (true, rest)
  | '+' :: rest => (false, rest)
  | cs => (false, cs)

/-- The longest run of digits at the front, by value, and what follows it. -/
def takeDigits : List Char → List Nat × List Char
  | [] => ([], [])
  | c :: rest =>
    match digitValue? c with
    | none => ([], c :: rest)
    | some digit =>
      let (digits, tail) := takeDigits rest
      (digit :: digits, tail)

/-- Takes a point and the digits after it off the front, if there is a point. -/
def takeFraction : List Char → List Nat × List Char
  | '.' :: rest => takeDigits rest
  | cs => ([], cs)

/-- Reads an exponent that ends the text: nothing at all, or a mark, an optional sign and at least
one digit. -/
def exponent? (isMark : Char → Bool) : List Char → Option Int
  | [] => some 0
  | c :: rest =>
    if isMark c then
      let (negative, unsigned) := takeSign rest
      match takeDigits unsigned with
      | (digit :: digits, []) =>
        let value := Int.ofNat (digitsValue (digit :: digits))
        some (if negative then -value else value)
      | _ => none
    else none

/-- Reads a whole text as a literal, with the given exponent marks. -/
def read? (isMark : Char → Bool) (cs : List Char) : Option Literal :=
  let (negative, unsigned) := takeSign cs
  let (whole, afterWhole) := takeDigits unsigned
  let (fraction, afterFraction) := takeFraction afterWhole
  if whole.isEmpty && fraction.isEmpty then none
  else
    (exponent? isMark afterFraction).map fun exponent =>
      { negative
        digits := digitsValue (whole ++ fraction)
        scale := exponent - Int.ofNat fraction.length }

/-- The double-precision number nearest to a literal, an infinity if it is too large. Scales that
decide the answer by themselves are answered without raising ten to them. -/
def toFloat (l : Literal) : Float :=
  if l.digits = 0 then Binary64.signed l.negative 0
  else if l.scale > 310 then Binary64.infinity l.negative
  else if -l.scale > 401 + Int.ofNat l.digits.log2 then Binary64.signed l.negative 0
  else if 0 ≤ l.scale then Binary64.scaled l.negative (l.digits * tenTo l.scale.toNat) 0
  else Binary64.ratio l.negative l.digits (tenTo (-l.scale).toNat)

end Literal

/-- The value of a word that is a number: a literal with the exponent mark `E` and nothing around
it, whose value is finite. -/
def wordNumber? (word : String) : Option Float :=
  match Literal.read? (· = 'E') word.toList with
  | none => none
  | some literal =>
    let value := literal.toFloat
    if value.isFinite then some value else none

/-- `NUMBER_PATTERN`: whether a word has the form of a number, also of one that is too large. -/
def isNumeral (word : String) : Bool :=
  (Literal.read? (· = 'E') word.toList).isSome

end TurtleScript
