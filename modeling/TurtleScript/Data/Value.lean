import TurtleScript.Number.Basic
import TurtleScript.Number.Reading
import TurtleScript.Text.Layout

/-!
Values of data files: level obstacles, objectives and alias files are given as such values, and what
a field must be is decided only when it is read. A record keeps its fields in the order in which
they were first given.
-/
namespace TurtleScript

open Text

/-- A value of a data file. -/
inductive Value where
  /-- No value. -/
  | null
  /-- A truth value. -/
  | bool (value : Bool)
  /-- A number. -/
  | number (value : Number)
  /-- A text. -/
  | text (value : String)
  /-- Values in order. -/
  | list (items : List Value)
  /-- Named values in order. -/
  | record (fields : List (String × Value))
deriving Inhabited

namespace Value

mutual

/-- A value as it is written inside another one: texts are quoted. A number that is too long to be
written anywhere in it is a fault of the whole. -/
def inner : Value → Except NumberFault String
  | .null => .ok "None"
  | .bool true => .ok "True"
  | .bool false => .ok "False"
  | .number n => n.text
  | .text s => .ok (quoted s)
  | .list items => (innerItems items).map fun parts => s!"[{commaList parts}]"
  | .record fields => (innerFields fields).map fun parts => "\x7b" ++ commaList parts ++ "\x7d"

/-- The items of a list as they are written. -/
def innerItems : List Value → Except NumberFault (List String)
  | [] => .ok []
  | item :: rest => do
    let written ← item.inner
    let others ← innerItems rest
    return written :: others

/-- The fields of a record as they are written. -/
def innerFields : List (String × Value) → Except NumberFault (List String)
  | [] => .ok []
  | (name, value) :: rest => do
    let written ← value.inner
    let others ← innerFields rest
    return s!"{quoted name}: {written}" :: others

end

/-- A value as it is shown by itself: a text stands without quotes. -/
def shown : Value → Except NumberFault String
  | .text s => .ok s
  | value => value.inner

/-- The name of a value's type in diagnostics. -/
def typeName : Value → String
  | .null => "NoneType"
  | .bool _ => "bool"
  | .number (.whole _) => "int"
  | .number (.real _) => "float"
  | .text _ => "str"
  | .list _ => "list"
  | .record _ => "dict"

end Value

/-- Why a value is not the number it should be. -/
inductive FieldFault where
  /-- A value of a type that has no real value. -/
  | notRealType (type : String)
  /-- A value of a type that has no whole value. -/
  | notWholeType (type : String)
  /-- A text that denotes no such number. -/
  | numeral (fault : NumeralFault)
  /-- A number that cannot be converted. -/
  | number (fault : NumberFault)
deriving Repr, DecidableEq

/-- The wording of a fault. -/
def FieldFault.message : FieldFault → String
  | .notRealType type => s!"float() argument must be a string or a real number, not '{type}'"
  | .notWholeType type =>
    s!"int() argument must be a string, a bytes-like object or a real number, not '{type}'"
  | .numeral fault => fault.message
  | .number fault => fault.message

namespace Value

/-- The double-precision number that a value denotes. -/
def toFloat : Value → Except FieldFault Float
  | .bool value => .ok (if value then 1.0 else 0.0)
  | .number n => n.toFloat.mapError .number
  | .text s => (Reading.real s).mapError .numeral
  | value => .error (.notRealType value.typeName)

/-- The whole number that a value denotes; a fraction is cut off. -/
def toWhole : Value → Except FieldFault Int
  | .bool value => .ok (if value then 1 else 0)
  | .number n => n.trunc.mapError .number
  | .text s => (Reading.whole s).mapError .numeral
  | value => .error (.notWholeType value.typeName)

end Value

end TurtleScript
