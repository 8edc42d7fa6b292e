import TurtleScript.Number.Power

/-!
Double-precision numbers as exact fractions. A finite number is a whole mantissa times a power of
two, and every operation that has to be exact here works on that pair in whole-number arithmetic and
rounds once, to the nearest number and to the even one of two equally near.
-/
namespace TurtleScript.Binary64

/-- What a number is exactly. -/
inductive Parts where
  /-- Not a number. -/
  | nan
  /-- An infinity. -/
  | infinite (negative : Bool)
  /-- The mantissa times two to the exponent; a zero has mantissa zero and keeps its sign. -/
  | finite (negative : Bool) (mantissa : Nat) (exponent : Int)
deriving Repr, DecidableEq

/-- The exact parts of a pattern of 64 bits. -/
def partsOfBits (bits : Nat) : Parts :=
  let negative := bits / twoTo 63 % 2 == 1
  let biased := bits / twoTo 52 % twoTo 11
  let fraction := bits % twoTo 52
  if biased = 0x7FF then
    if fraction = 0 then .infinite negative else .nan
  else if biased = 0 then .finite negative fraction (-1074)
  else .finite negative (twoTo 52 + fraction) (Int.ofNat biased - 1075)

/-- The exact parts of a number. -/
def parts (x : Float) : Parts :=
  partsOfBits x.toBits.toNat

/-- Whether the sign of a number is negative, also of a zero. -/
def isNegative (x : Float) : Bool :=
  x.toBits.toNat / twoTo 63 % 2 == 1

/-- The infinity of a sign. -/
def infinity (negative : Bool) : Float :=
  if negative then -1.0 / 0.0 else 1.0 / 0.0

/-- The number that is not one. -/
def nan : Float := 0.0 / 0.0

/-! ## Rounding -/

/-- A quotient by `2 ^ drop` rounded to the nearest whole number, a tie to the even one. `more` says
that the dividend stands for a slightly greater value. -/
def roundDropped (mantissa drop : Nat) (more : Bool) : Nat :=
  let quotient := mantissa / twoTo drop
  let rest := 2 * (mantissa % twoTo drop)
  if rest > twoTo drop || (rest == twoTo drop && (more || quotient % 2 == 1)) then quotient + 1
  else quotient

/-- The bits of the magnitude nearest to `mantissa * 2 ^ exponent`, infinity if it is too large.
Where `more` is set the value is slightly greater, and the mantissa must have more than 53 bits. -/
def magnitudeBits (mantissa : Nat) (exponent : Int) (more : Bool) : Nat :=
  if mantissa = 0 then 0
  else
    let target := max (Int.ofNat (mantissa.log2 + 1) + exponent - 53) (-1074)
    let drop := target - exponent
    let rounded :=
      if drop ≤ 0 then mantissa * twoTo (-drop).toNat
      else if drop > Int.ofNat (mantissa.log2 + 2) then 0
      else roundDropped mantissa drop.toNat more
    -- Above the subnormal range the leading bit of the mantissa adds one to the exponent field.
    min ((target + 1074).toNat * twoTo 52 + rounded) (0x7FF * twoTo 52)

/-- The number with the given magnitude bits. -/
def signed (negative : Bool) (bits : Nat) : Float :=
  Float.ofBits (UInt64.ofNat (if negative then twoTo 63 + bits else bits))

/-- The number nearest to `mantissa * 2 ^ exponent`. -/
def scaled (negative : Bool) (mantissa : Nat) (exponent : Int) : Float :=
  signed negative (magnitudeBits mantissa exponent false)

/-- The number nearest to a fraction with a positive denominator. -/
def ratio (negative : Bool) (num den : Nat) : Float :=
  let shift := 66 + den.log2 - num.log2
  let quotient := num * twoTo shift / den
  signed negative
    (magnitudeBits quotient (-Int.ofNat shift) (num * twoTo shift % den != 0))

/-- The number nearest to a whole number, an infinity if it is too large. -/
def ofInt (n : Int) : Float :=
  scaled (n < 0) n.natAbs 0

/-! ## Whole numbers -/

/-- The greatest whole number that is not above a finite number. -/
def floorOf (negative : Bool) (mantissa : Nat) (exponent : Int) : Int :=
  let value := if negative then -Int.ofNat mantissa else Int.ofNat mantissa
  if 0 ≤ exponent then value * twoTo exponent.toNat
  else Int.fdiv value (twoTo (-exponent).toNat)

/-- The whole part of a finite number. -/
def truncOf (negative : Bool) (mantissa : Nat) (exponent : Int) : Int :=
  let value := if negative then -Int.ofNat mantissa else Int.ofNat mantissa
  if 0 ≤ exponent then value * twoTo exponent.toNat
  else Int.tdiv value (twoTo (-exponent).toNat)

/-- The whole number that a number is, if it is one. -/
def whole? (x : Float) : Option Int :=
  match parts x with
  | .finite negative mantissa exponent =>
    if 0 ≤ exponent || mantissa % twoTo (-exponent).toNat == 0 then
      some (truncOf negative mantissa exponent)
    else none
  | _ => none

/-- The order of a number and a whole number, exactly; `none` for what is not a number. -/
def compareInt (x : Float) (n : Int) : Option Ordering :=
  match parts x with
  | .nan => none
  | .infinite negative => some (if negative then .lt else .gt)
  | .finite negative mantissa exponent =>
    let value := if negative then -Int.ofNat mantissa else Int.ofNat mantissa
    some <|
      if 0 ≤ exponent then compare (value * twoTo exponent.toNat) n
      else compare value (n * twoTo (-exponent).toNat)

/-! ## Remainder and hypotenuse -/

/-- The remainder of a number by a positive whole number, of the divisor's sign. What falls short of
a multiple is brought into range by adding the divisor, which may round up to the divisor itself. -/
def modulo (x : Float) (divisor : Nat) : Float :=
  match parts x with
  | .nan => x
  | .infinite _ => nan
  | .finite negative mantissa exponent =>
    let rest :=
      if 0 ≤ exponent then scaled negative (mantissa * twoTo exponent.toNat % divisor) 0
      else scaled negative (mantissa % (divisor * twoTo (-exponent).toNat)) exponent
    if rest == 0.0 then 0.0
    else if negative then rest + ofInt divisor
    else rest

/-- The root of `mantissa * 2 ^ (2 * exponent)`: rounded to 53 bits, and then into the range of the
numbers. Below the normal range that is a second rounding. -/
def rootScaled (mantissa : Nat) (exponent : Int) : Float :=
  let shift := 66 - mantissa.log2 / 2
  let wide := mantissa * twoTo (2 * shift)
  let root := Nat.sqrt wide
  let drop := root.log2 + 1 - 53
  scaled false (roundDropped root drop (root * root != wide))
    (exponent - Int.ofNat shift + Int.ofNat drop)

/-- Adds to a sum that is kept in two parts: the rounded sum, and what rounding has lost. -/
def addKeeping (sum : Float × Float) (x : Float) : Float × Float :=
  let rounded := sum.1 + x
  (rounded, sum.2 + ((sum.1 - rounded) + x))

/-- The distance from the origin to a point whose coordinates are not negative and at most
`greatest`, as a multiple of `greatest`: every operation is rounded. -/
def stretched (greatest x y : Float) : Float :=
  let square (z : Float) : Float := (z / greatest) * (z / greatest)
  let (sum, lost) := addKeeping (addKeeping (1.0, 0.0) (square x)) (square y)
  greatest * Float.sqrt (sum - 1.0 + lost)

/-- The number below which no power of two scales a number to one. -/
def leastScalable : Float := scaled false 1 (-1024)

/-- The distance from the origin to a point. An infinite coordinate makes it infinite even beside
one that is not a number. The root is exact up to its rounding unless both coordinates are so small
that they cannot be scaled. -/
def hypotenuse (x y : Float) : Float :=
  match parts x, parts y with
  | .infinite _, _ => infinity false
  | _, .infinite _ => infinity false
  | .nan, _ => nan
  | _, .nan => nan
  | .finite _ m e, .finite _ n f =>
    let greatest := if x.abs < y.abs then y.abs else x.abs
    if greatest == 0.0 then 0.0
    else if greatest < leastScalable then stretched greatest x.abs y.abs
    else
      let least := min e f
      let a := m * twoTo (e - least).toNat
      let b := n * twoTo (f - least).toNat
      rootScaled (a * a + b * b) least

end TurtleScript.Binary64
