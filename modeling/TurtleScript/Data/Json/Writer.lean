import TurtleScript.Data.Value

/-!
Writing JSON text: two spaces to a level, one item or field to a line, empty lists and records on
one line, and every character outside printable ASCII by its code.
-/
namespace TurtleScript.Json

open Text

/-- One UTF-16 code unit as an escape. -/
def unitEscape (unit : Nat) : List Char :=
  '\\' :: 'u' :: hexDigits 4 unit

/-- One character of a text. -/
def writtenChar (c : Char) : List Char :=
  if c = '\x22' || c = '\\' then ['\\', c]
  else if c = '\n' then ['\\', 'n']
  else if c = '\r' then ['\\', 'r']
  else if c = '\t' then ['\\', 't']
  else if c = '\x0c' then ['\\', 'f']
  else if c = '\x08' then ['\\', 'b']
  else if 0x20 ≤ c.toNat && c.toNat ≤ 0x7E then [c]
  else if c.toNat < 0x10000 then unitEscape c.toNat
  else
    let code := c.toNat - 0x10000
    unitEscape (0xD800 + code / 0x400) ++ unitEscape (0xDC00 + code % 0x400)

/-- A text between double quotes. -/
def writtenText (s : String) : String :=
  String.ofList ('\x22' :: (s.toList.flatMap writtenChar ++ ['\x22']))

/-- A number; the ones that are not finite are written as words. The whole numbers of reports are
lines and steps, which are not too long to be written. -/
def writtenNumber : Number → String
  | .whole n => toString n
  | .real x =>
    match Binary64.parts x with
    | .nan => "NaN"
    | .infinite negative => if negative then "-Infinity" else "Infinity"
    | .finite .. => Decimal.plain x

/-- A line break and the indentation of a level. -/
def newLine (level : Nat) : String :=
  "\n" ++ String.ofList (List.replicate (2 * level) ' ')

/-- Parts on lines of their own, one level in, between two brackets. -/
def block (opening closing : String) (level : Nat) (parts : List String) : String :=
  if parts.isEmpty then opening ++ closing
  else
    opening ++ newLine (level + 1) ++ String.intercalate ("," ++ newLine (level + 1)) parts ++
      newLine level ++ closing

mutual

/-- A value at a level of indentation. -/
def written (level : Nat) : Value → String
  | .null => "null"
  | .bool true => "true"
  | .bool false => "false"
  | .number n => writtenNumber n
  | .text s => writtenText s
  | .list items => block "[" "]" level (writtenItems (level + 1) items)
  | .record fields => block "\x7b" "\x7d" level (writtenFields (level + 1) fields)

/-- Items at a level of indentation. -/
def writtenItems (level : Nat) : List Value → List String
  | [] => []
  | item :: rest => written level item :: writtenItems level rest

/-- Fields at a level of indentation. -/
def writtenFields (level : Nat) : List (String × Value) → List String
  | [] => []
  | (name, value) :: rest =>
    (writtenText name ++ ": " ++ written level value) :: writtenFields level rest

end

/-- The text of a value. -/
def write (value : Value) : String :=
  written 0 value

end TurtleScript.Json
