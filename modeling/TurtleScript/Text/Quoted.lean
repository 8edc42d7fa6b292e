import TurtleScript.Text.Printable

/-!
Quoted text, as diagnostics and listings show it. The quote mark is the single one unless the text
holds it and holds no double one; the mark and the backslash are escaped, and every character that
is not printable is written by its code.
-/
namespace TurtleScript.Text

/-- The lower-case hexadecimal digits of a number, padded with zeros to a width. -/
def hexDigits (width : Nat) (n : Nat) : List Char :=
  let digits := Nat.toDigits 16 n
  List.replicate (width - digits.length) '0' ++ digits

/-- The quote mark around a text. -/
def quoteMark (cs : List Char) : Char :=
  if cs.contains '\x27' && !cs.contains '\x22' then '\x22' else '\x27'

/-- One character between quote marks. -/
def quotedChar (mark c : Char) : List Char :=
  if c = mark || c = '\\' then ['\\', c]
  else if c = '\n' then ['\\', 'n']
  else if c = '\r' then ['\\', 'r']
  else if c = '\t' then ['\\', 't']
  else if isPrintable c then [c]
  else if c.toNat < 0x100 then '\\' :: 'x' :: hexDigits 2 c.toNat
  else if c.toNat < 0x10000 then '\\' :: 'u' :: hexDigits 4 c.toNat
  else '\\' :: 'U' :: hexDigits 8 c.toNat

/-- A text between quote marks. -/
def quotedChars (cs : List Char) : List Char :=
  let mark := quoteMark cs
  mark :: (cs.flatMap (quotedChar mark) ++ [mark])

/-- A text between quote marks. -/
def quoted (s : String) : String :=
  String.ofList (quotedChars s.toList)

end TurtleScript.Text
