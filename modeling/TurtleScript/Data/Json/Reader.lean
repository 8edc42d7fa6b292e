import TurtleScript.Data.Table
import TurtleScript.Data.Value

/-!
Reading JSON text. Besides the standard's numbers, `NaN`, `Infinity` and `-Infinity` are read; a
number without fraction and exponent is whole. A fault names what was expected and where, by line,
column and offset.
-/
namespace TurtleScript.Json

open Text

/-- What is wrong at some place of a text. -/
inductive Complaint where
  /-- No value stands here. -/
  | value
  /-- No field name stands here. -/
  | name
  /-- No colon follows a field name. -/
  | colon
  /-- No comma follows an item or a field. -/
  | comma
  /-- A text is not closed. -/
  | unterminated
  /-- A control character stands in a text. -/
  | control
  /-- An unknown escape. -/
  | escape
  /-- An escape by code without four hexadecimal digits. -/
  | codeEscape
  /-- Something follows the value. -/
  | extra
  /-- The text starts with a byte order mark. -/
  | byteOrderMark
deriving Repr, DecidableEq

/-- The wording of a complaint. -/
def Complaint.message : Complaint → String
  | .value => "Expecting value"
  | .name => "Expecting property name enclosed in double quotes"
  | .colon => "Expecting ':' delimiter"
  | .comma => "Expecting ',' delimiter"
  | .unterminated => "Unterminated string starting at"
  | .control => "Invalid control character at"
  | .escape => "Invalid \\escape"
  | .codeEscape => "Invalid \\uXXXX escape"
  | .extra => "Extra data"
  | .byteOrderMark => "Unexpected UTF-8 BOM (decode using utf-8-sig)"

/-- Why a text is not read. -/
inductive Fault where
  /-- The text is not well formed at an offset. -/
  | malformed (complaint : Complaint) (line column offset : Nat)
  /-- A whole number is too long. -/
  | numeral (fault : NumeralFault)
deriving Repr, DecidableEq

/-- The wording of a fault. -/
def Fault.message : Fault → String
  | .malformed complaint line column offset =>
    s!"{complaint.message}: line {line} column {column} (char {offset})"
  | .numeral fault => fault.message

/-- A place in a text: its offset and what stands from there on. -/
structure Spot where
  /-- Characters before this place. -/
  offset : Nat
  /-- Characters from this place on. -/
  rest : List Char

/-- What stops the reading: a complaint at an offset, or a number that is too long. -/
inductive Stop where
  /-- A complaint at an offset. -/
  | complaint (complaint : Complaint) (offset : Nat)
  /-- A whole number that is too long. -/
  | numeral (fault : NumeralFault)

/-- The place some characters further on. -/
def Spot.skip (spot : Spot) (count : Nat) : Spot :=
  ⟨spot.offset + count, spot.rest.drop count⟩

/-- The blanks of JSON. -/
def isSpace (c : Char) : Bool :=
  c = ' ' || c = '\t' || c = '\n' || c = '\r'

/-- The next place that is not blank. -/
def Spot.skipSpace (spot : Spot) : Spot :=
  spot.skip (spot.rest.takeWhile isSpace).length

/-! ## Texts -/

/-- The value of a hexadecimal digit. -/
def hexValue? (c : Char) : Option Nat :=
  if '0' ≤ c && c ≤ '9' then some (c.toNat - 0x30)
  else if 'a' ≤ c && c ≤ 'f' then some (c.toNat - 0x57)
  else if 'A' ≤ c && c ≤ 'F' then some (c.toNat - 0x37)
  else none

/-- The code that four hexadecimal digits spell. -/
def codeUnit? : List Char → Option Nat
  | a :: b :: c :: d :: _ => do
    let a ← hexValue? a
    let b ← hexValue? b
    let c ← hexValue? c
    let d ← hexValue? d
    some (((a * 16 + b) * 16 + c) * 16 + d)
  | _ => none

/-- The character of a code; a half of a surrogate pair by itself stands for no character. -/
def charOfCode (code : Nat) : Char :=
  if 0xD800 ≤ code && code < 0xE000 then Char.ofNat 0xFFFD else Char.ofNat code

/-- What follows `\u`: the character and how many characters after `\u` it takes. Something must
follow the four digits. -/
def codeEscape (offset : Nat) (rest : List Char) : Except Stop (Char × Nat) :=
  if rest.length ≤ 4 then .error (.complaint .codeEscape (offset + 1))
  else
    match codeUnit? rest with
    | none => .error (.complaint .codeEscape (offset + 1))
    | some high =>
      match rest.drop 4 with
      | '\\' :: 'u' :: low =>
        if 0xD800 ≤ high && high < 0xDC00 && low.length > 4 then
          match codeUnit? low with
          | none => .error (.complaint .codeEscape (offset + 7))
          | some code =>
            if 0xDC00 ≤ code && code < 0xE000 then
              .ok (Char.ofNat (0x10000 + (high - 0xD800) * 0x400 + (code - 0xDC00)), 10)
            else .ok (charOfCode high, 4)
        else .ok (charOfCode high, 4)
      | _ => .ok (charOfCode high, 4)

/-- The character of a one-letter escape. -/
def letterEscape? (c : Char) : Option Char :=
  if c = '\x22' || c = '\\' || c = '/' then some c
  else if c = 'b' then some '\x08'
  else if c = 'f' then some '\x0c'
  else if c = 'n' then some '\n'
  else if c = 'r' then some '\r'
  else if c = 't' then some '\t'
  else none

/-- Reads the inside of a text that starts at `start`; `skip` characters of an escape are left. -/
def readText (start offset : Nat) : (skip : Nat) → List Char → Except Stop (List Char × Spot)
  | _, [] => .error (.complaint .unterminated start)
  | skip + 1, _ :: rest => readText start (offset + 1) skip rest
  | 0, c :: rest =>
    if c = '\x22' then .ok ([], ⟨offset + 1, rest⟩)
    else if c = '\\' then
      match rest with
      | [] => .error (.complaint .unterminated start)
      | letter :: after =>
        if letter = 'u' then
          match codeEscape offset after with
          | .error stop => .error stop
          | .ok (char, taken) =>
            (readText start (offset + 1) (taken + 1) rest).map fun (cs, spot) => (char :: cs, spot)
        else
          match letterEscape? letter with
          | none => .error (.complaint .escape offset)
          | some char =>
            (readText start (offset + 1) 1 rest).map fun (cs, spot) => (char :: cs, spot)
    else if c.toNat ≤ 0x1F then .error (.complaint .control offset)
    else (readText start (offset + 1) 0 rest).map fun (cs, spot) => (c :: cs, spot)

/-! ## Numbers -/

/-- The length of the digits at the front. -/
def digitCount (cs : List Char) : Nat :=
  (cs.takeWhile Char.isDigit).length

/-- The length of a fraction at the front: a point and at least one digit, or nothing. -/
def fractionLength : List Char → Nat
  | '.' :: rest => if digitCount rest = 0 then 0 else digitCount rest + 1
  | _ => 0

/-- The length of an exponent at the front: a mark, an optional sign and at least one digit, or
nothing. -/
def exponentLength : List Char → Nat
  | c :: rest =>
    if c = 'e' || c = 'E' then
      let sign := match rest with
        | s :: _ => if s = '-' || s = '+' then 1 else 0
        | [] => 0
      let digits := digitCount (rest.drop sign)
      if digits = 0 then 0 else 1 + sign + digits
    else 0
  | [] => 0

/-- Reads a number. -/
def readNumber (spot : Spot) : Except Stop (Value × Spot) :=
  let sign := match spot.rest with
    | '-' :: _ => 1
    | _ => 0
  let unsigned := spot.rest.drop sign
  let whole := match unsigned with
    | '0' :: _ => 1
    | _ => digitCount unsigned
  if whole = 0 then .error (.complaint .value spot.offset)
  else
    let afterWhole := unsigned.drop whole
    let fraction := fractionLength afterWhole
    let exponent := exponentLength (afterWhole.drop fraction)
    let length := sign + whole + fraction + exponent
    let text := String.ofList (spot.rest.take length)
    if fraction + exponent = 0 then
      match Reading.whole text with
      | .ok n => .ok (.number (.whole n), spot.skip length)
      | .error fault => .error (.numeral fault)
    else
      match Reading.real text with
      | .ok x => .ok (.number (.real x), spot.skip length)
      | .error fault => .error (.numeral fault)

/-! ## Values -/

/-- The words that are values. -/
def wordValues : List (List Char × Value) :=
  [("null".toList, .null), ("true".toList, .bool true), ("false".toList, .bool false),
    ("NaN".toList, .number (.real Binary64.nan)),
    ("Infinity".toList, .number (.real (Binary64.infinity false))),
    ("-Infinity".toList, .number (.real (Binary64.infinity true)))]

mutual

/-- Reads one value. Every call takes one unit of fuel. -/
def readValue : (fuel : Nat) → Spot → Except Stop (Value × Spot)
  | 0, spot => .error (.complaint .value spot.offset)
  | fuel + 1, spot =>
    match spot.rest with
    | '\x22' :: rest =>
      (readText spot.offset (spot.offset + 1) 0 rest).map fun (cs, next) =>
        (.text (String.ofList cs), next)
    | '[' :: _ =>
      let first := (spot.skip 1).skipSpace
      match first.rest with
      | ']' :: _ => .ok (.list [], first.skip 1)
      | _ => (readItems fuel first).map fun (items, next) => (.list items, next)
    | '\x7b' :: _ =>
      let first := (spot.skip 1).skipSpace
      match first.rest with
      | '\x7d' :: _ => .ok (.record [], first.skip 1)
      | _ => (readFields fuel first).map fun (fields, next) => (.record (Table.ofPairs fields), next)
    | cs =>
      match wordValues.find? fun word => word.1.isPrefixOf cs with
      | some (word, value) => .ok (value, spot.skip word.length)
      | none => readNumber spot

/-- Reads the items of a list from the first one to the closing bracket. -/
def readItems : (fuel : Nat) → Spot → Except Stop (List Value × Spot)
  | 0, spot => .error (.complaint .value spot.offset)
  | fuel + 1, spot =>
    match readValue fuel spot with
    | .error stop => .error stop
    | .ok (item, next) =>
      let next := next.skipSpace
      match next.rest with
      | ']' :: _ => .ok ([item], next.skip 1)
      | ',' :: _ =>
        (readItems fuel (next.skip 1).skipSpace).map fun (items, last) => (item :: items, last)
      | _ => .error (.complaint .comma next.offset)

/-- Reads the fields of a record from the first name to the closing brace. -/
def readFields : (fuel : Nat) → Spot → Except Stop (List (String × Value) × Spot)
  | 0, spot => .error (.complaint .value spot.offset)
  | fuel + 1, spot =>
    match spot.rest with
    | '\x22' :: rest =>
      match readText spot.offset (spot.offset + 1) 0 rest with
      | .error stop => .error stop
      | .ok (name, afterName) =>
        let colon := afterName.skipSpace
        match colon.rest with
        | ':' :: _ =>
          match readValue fuel (colon.skip 1).skipSpace with
          | .error stop => .error stop
          | .ok (value, next) =>
            let field := (String.ofList name, value)
            let next := next.skipSpace
            match next.rest with
            | '\x7d' :: _ => .ok ([field], next.skip 1)
            | ',' :: _ =>
              (readFields fuel (next.skip 1).skipSpace).map fun (fields, last) =>
                (field :: fields, last)
            | _ => .error (.complaint .comma next.offset)
        | _ => .error (.complaint .colon colon.offset)
    | _ => .error (.complaint .name spot.offset)

end

/-- The line and column of an offset, both from one. -/
def lineColumn (cs : List Char) (offset : Nat) : Nat × Nat :=
  let before := cs.take offset
  (before.count '\n' + 1, (before.reverse.takeWhile (· ≠ '\n')).length + 1)

/-- Reads a whole text as one value. -/
def readChars (cs : List Char) : Except Stop Value :=
  match cs with
  | '\uFEFF' :: _ => .error (.complaint .byteOrderMark 0)
  | _ =>
    match readValue (2 * cs.length + 2) (Spot.skipSpace ⟨0, cs⟩) with
    | .error stop => .error stop
    | .ok (value, last) =>
      let last := last.skipSpace
      if last.rest.isEmpty then .ok value else .error (.complaint .extra last.offset)

/-- Reads a whole text as one value. -/
def read (s : String) : Except Fault Value :=
  let cs := s.toList
  match readChars cs with
  | .ok value => .ok value
  | .error (.numeral fault) => .error (.numeral fault)
  | .error (.complaint complaint offset) =>
    let (line, column) := lineColumn cs offset
    .error (.malformed complaint line column offset)

end TurtleScript.Json
