import TurtleScript.Number.Binary64

/-!
Decimal text of double-precision numbers: the fewest digits that read back as the same number, a
fixed number of places, and a fixed number of significant digits. All three are decided in exact
whole-number arithmetic on the fraction that the number is.
-/
namespace TurtleScript.Decimal

/-! ## Fractions -/

/-- A fraction that is not negative, with a positive denominator. -/
structure Fraction where
  /-- Numerator. -/
  num : Nat
  /-- Denominator. -/
  den : Nat

/-- A mantissa times a power of two, as a fraction. -/
def Fraction.ofScaled (mantissa : Nat) (exponent : Int) : Fraction :=
  if 0 ≤ exponent then ⟨mantissa * twoTo exponent.toNat, 1⟩
  else ⟨mantissa, twoTo (-exponent).toNat⟩

/-- A fraction times a power of ten. -/
def Fraction.shift (q : Fraction) (places : Int) : Fraction :=
  if 0 ≤ places then ⟨q.num * tenTo places.toNat, q.den⟩
  else ⟨q.num, q.den * tenTo (-places).toNat⟩

/-- A fraction rounded to the nearest whole number, a tie to the even one. -/
def Fraction.round (q : Fraction) : Nat :=
  let floor := q.num / q.den
  let rest := 2 * (q.num % q.den)
  if rest > q.den || (rest == q.den && floor % 2 == 1) then floor + 1 else floor

/-- Whether a power of ten is not above the fraction. -/
def Fraction.reaches (q : Fraction) (power : Int) : Bool :=
  let scaled := q.shift (-power)
  scaled.den ≤ scaled.num

/-- The place of the leading decimal digit: the greatest power of ten not above a positive fraction.
The binary places give it up to one. -/
def Fraction.leadingPlace (q : Fraction) : Int :=
  let guess := Int.fdiv ((Int.ofNat q.num.log2 - Int.ofNat q.den.log2) * 30103) 100000
  if q.reaches (guess + 1) then guess + 1
  else if q.reaches guess then guess
  else guess - 1

/-! ## The fewest digits -/

/-- The decimal `digits * 10 ^ scale`. -/
structure Scaled where
  /-- The digits, read as a whole number. -/
  digits : Nat
  /-- The power of ten that the last digit counts. -/
  scale : Int

/-- The fractions that round to a number. -/
structure Interval where
  /-- Lower end. -/
  low : Fraction
  /-- Upper end. -/
  high : Fraction
  /-- Whether the ends belong to the interval. -/
  closed : Bool

/-- The interval of fractions that round to a number: half the way to each neighbour, ends included
when the mantissa is even. Below a power of two the neighbour is half as far, except at the smallest
exponent. -/
def Interval.around (mantissa : Nat) (exponent : Int) : Interval :=
  let below := if mantissa = twoTo 52 && exponent > -1074 then 1 else 2
  { low := .ofScaled (4 * mantissa - below) (exponent - 2)
    high := .ofScaled (4 * mantissa + 2) (exponent - 2)
    closed := mantissa % 2 == 0 }

/-- Whether a decimal lies in the interval. -/
def Interval.holds (i : Interval) (d : Scaled) : Bool :=
  let low := i.low.shift (-d.scale)
  let high := i.high.shift (-d.scale)
  if i.closed then low.num ≤ d.digits * low.den && d.digits * high.den ≤ high.num
  else low.num < d.digits * low.den && d.digits * high.den < high.num

/-- The first decimal in the interval among those with `count`, `count + 1`, … `count + more`
digits; of two with as many digits, the nearer one. -/
def shortestFrom (value : Fraction) (interval : Interval) (leading : Int) :
    (more count : Nat) → Scaled
  | 0, count =>
    let scale := leading + 1 - Int.ofNat count
    ⟨(value.shift (-scale)).round, scale⟩
  | more + 1, count =>
    let scale := leading + 1 - Int.ofNat count
    let scaled := value.shift (-scale)
    let below := scaled.num / scaled.den
    let nearest := scaled.round
    let other := if nearest = below then below + 1 else below
    if interval.holds ⟨nearest, scale⟩ then ⟨nearest, scale⟩
    else if interval.holds ⟨other, scale⟩ then ⟨other, scale⟩
    else shortestFrom value interval leading more (count + 1)

/-- The decimal with the fewest digits that reads back as a positive number. Seventeen digits always
suffice. -/
def shortest (mantissa : Nat) (exponent : Int) : Scaled :=
  let value := Fraction.ofScaled mantissa exponent
  shortestFrom value (.around mantissa exponent) value.leadingPlace 16 1

/-! ## Text -/

/-- The decimal digits of a whole number. -/
def digitText (n : Nat) : List Char :=
  Nat.toDigits 10 n

/-- The digits of a whole number, padded with zeros in front to a width. -/
def paddedDigits (width n : Nat) : List Char :=
  let text := digitText n
  List.replicate (width - text.length) '0' ++ text

/-- A digit text without the zeros at its end, but for the first digit. -/
def dropTrailingZeros : List Char → List Char
  | [] => []
  | first :: rest => first :: (rest.reverse.dropWhile (· = '0')).reverse

/-- A leading digit, and the others after a point. -/
def pointed : List Char → List Char
  | [] => []
  | [digit] => [digit]
  | digit :: rest => digit :: '.' :: rest

/-- The exponent mark, its sign and at least two digits. -/
def exponentText (place : Int) : List Char :=
  'e' :: (if place < 0 then '-' else '+') :: paddedDigits 2 place.natAbs

/-- Positional digits with at least one on each side of the point. -/
def positional (digits : List Char) (place : Int) : List Char :=
  if place < 0 then
    '0' :: '.' :: (List.replicate (-place - 1).toNat '0' ++ digits)
  else
    let wholeCount := place.toNat + 1
    let whole := digits.take wholeCount ++ List.replicate (wholeCount - digits.length) '0'
    let rest := digits.drop wholeCount
    whole ++ '.' :: (if rest.isEmpty then ['0'] else rest)

/-- A magnitude with the fewest digits: positional from `0.0001` up to sixteen whole digits, and
with an exponent outside. -/
def plainMagnitude (mantissa : Nat) (exponent : Int) : List Char :=
  if mantissa = 0 then ['0', '.', '0']
  else
    let found := shortest mantissa exponent
    let text := digitText found.digits
    let place := found.scale + Int.ofNat text.length - 1
    let digits := dropTrailingZeros text
    if -4 ≤ place && place < 16 then positional digits place
    else pointed digits ++ exponentText place

/-- A magnitude with a fixed number of places after the point, a tie to the even digit. -/
def fixedMagnitude (places mantissa : Nat) (exponent : Int) : List Char :=
  let digits := paddedDigits (places + 1)
    ((Fraction.ofScaled mantissa exponent).shift (Int.ofNat places)).round
  let whole := digits.take (digits.length - places)
  let rest := digits.drop (digits.length - places)
  if places = 0 then whole else whole ++ '.' :: rest

/-- The text of a number whose finite magnitudes are written by `magnitude`. -/
def signedText (magnitude : Nat → Int → List Char) (x : Float) : String :=
  match Binary64.parts x with
  | .nan => "nan"
  | .infinite negative => if negative then "-inf" else "inf"
  | .finite negative mantissa exponent =>
    let text := magnitude mantissa exponent
    String.ofList (if negative then '-' :: text else text)

/-- A number with the fewest digits that read back as it, always with a point or an exponent. -/
def plain (x : Float) : String :=
  signedText plainMagnitude x

/-- A number with a fixed number of places after the point. -/
def fixed (places : Nat) (x : Float) : String :=
  signedText (fixedMagnitude places) x

end TurtleScript.Decimal
