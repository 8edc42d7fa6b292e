import TurtleScript.Number.Decimal

/-!
The numbers that commands and levels carry: whole numbers of any size and double-precision numbers.
They compare by value, exactly, and a conversion that loses the value altogether is refused.
-/
namespace TurtleScript

/-- A whole number of any size, or a double-precision one. -/
inductive Number where
  /-- A whole number. -/
  | whole (value : Int)
  /-- A double-precision number. -/
  | real (value : Float)
deriving DecidableEq

/-- Why a number cannot be used where it stands. -/
inductive NumberFault where
  /-- What is not a number has no whole part. -/
  | nanToWhole
  /-- An infinity has no whole part. -/
  | infinityToWhole
  /-- A whole number beyond the double-precision range. -/
  | tooLarge
  /-- A quotient of whole numbers beyond the double-precision range. -/
  | quotientTooLarge
  /-- An angle that has no sine. -/
  | domain
  /-- A whole number with more digits than are written. -/
  | tooLong
deriving Repr, DecidableEq

/-- The greatest number of digits of a whole number that is read or written. -/
def maxWholeDigits : Nat := 4300

/-- The wording of a fault. -/
def NumberFault.message : NumberFault → String
  | .nanToWhole => "cannot convert float NaN to integer"
  | .infinityToWhole => "cannot convert float infinity to integer"
  | .tooLarge => "int too large to convert to float"
  | .quotientTooLarge => "integer division result too large for a float"
  | .domain => "math domain error"
  | .tooLong =>
    s!"Exceeds the limit ({maxWholeDigits} digits) for integer string conversion; " ++
      "use sys.set_int_max_str_digits() to increase the limit"

/-- The text of a whole number that is not too long to be written. -/
def wholeText (n : Int) : Except NumberFault String :=
  if n.natAbs < tenTo maxWholeDigits then .ok (toString n) else .error .tooLong

namespace Number

/-- The text of a number, if it is not too long to be written. -/
def text : Number → Except NumberFault String
  | .whole n => wholeText n
  | .real x => .ok (Decimal.plain x)

/-- The nearest double-precision number. -/
def toFloat : Number → Except NumberFault Float
  | .real x => .ok x
  | .whole n =>
    let x := Binary64.ofInt n
    if x.isFinite then .ok x else .error .tooLarge

/-- Half of a number, in double precision. -/
def half : Number → Except NumberFault Float
  | .real x => .ok (x / 2.0)
  | .whole n =>
    let x := Binary64.ratio (n < 0) n.natAbs 2
    if x.isFinite then .ok x else .error .quotientTooLarge

/-- A number with the opposite sign. -/
def neg : Number → Number
  | .whole n => .whole (-n)
  | .real x => .real (-x)

/-- The whole number that `pick` takes from a finite number's parts. -/
def wholeBy (pick : Bool → Nat → Int → Int) : Number → Except NumberFault Int
  | .whole n => .ok n
  | .real x =>
    match Binary64.parts x with
    | .nan => .error .nanToWhole
    | .infinite _ => .error .infinityToWhole
    | .finite negative mantissa exponent => .ok (pick negative mantissa exponent)

/-- The whole part of a number. -/
def trunc (n : Number) : Except NumberFault Int :=
  n.wholeBy Binary64.truncOf

/-- The greatest whole number not above a number. -/
def floor (n : Number) : Except NumberFault Int :=
  n.wholeBy Binary64.floorOf

/-- Whether a number is zero. -/
def isZero : Number → Bool
  | .whole n => n == 0
  | .real x => x == 0.0

/-- Whether two numbers have the same value. -/
def sameValue : Number → Number → Bool
  | .whole m, .whole n => m == n
  | .real x, .real y => x == y
  | .real x, .whole n => Binary64.compareInt x n == some .eq
  | .whole n, .real x => Binary64.compareInt x n == some .eq

/-- Whether a double-precision number is at most a number, by value. -/
def atLeast (bound : Number) (x : Float) : Bool :=
  match bound with
  | .real y => x ≤ y
  | .whole n =>
    match Binary64.compareInt x n with
    | some .gt => false
    | some _ => true
    | none => false

end Number

end TurtleScript
