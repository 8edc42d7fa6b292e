import TurtleScript.Text.Quoted

/-!
Reading UTF-8. The first octet of a character says how many octets follow it and, for the longest
and the shortest forms, narrows the second one; a fault names the octets that cannot be read and
why.
-/
namespace TurtleScript.Text.Utf8

/-- Why octets cannot be read. -/
inductive Reason where
  /-- No character starts with this octet. -/
  | start
  /-- The character is broken off by an octet that cannot continue it. -/
  | continuation
  /-- The octets end inside a character. -/
  | truncated
deriving Repr, DecidableEq

/-- The first octets of a text that cannot be read. -/
structure Fault where
  /-- Why they cannot be read. -/
  reason : Reason
  /-- Offset of the first of them. -/
  offset : Nat
  /-- How many they are. -/
  count : Nat
  /-- The first of them. -/
  octet : Nat
deriving Repr, DecidableEq

/-- The wording of a reason. -/
def Reason.message : Reason → String
  | .start => "invalid start byte"
  | .continuation => "invalid continuation byte"
  | .truncated => "unexpected end of data"

/-- The wording of a fault: a single octet is named, several are given by their offsets. -/
def Fault.message (f : Fault) : String :=
  let place :=
    if f.count = 1 then s!"byte 0x{String.ofList (hexDigits 2 f.octet)} in position {f.offset}"
    else s!"bytes in position {f.offset}-{f.offset + f.count - 1}"
  s!"'utf-8' codec can't decode {place}: {f.reason.message}"

/-- What a first octet promises: how many octets follow, the range of the next one, and the bits
that it holds itself. -/
structure Lead where
  /-- Octets that follow. -/
  tail : Nat
  /-- Least second octet. -/
  low : Nat
  /-- Greatest second octet. -/
  high : Nat
  /-- The bits of the character in the first octet. -/
  bits : Nat

/-- What an octet promises as the first of a character, if one can start with it. -/
def lead? (octet : Nat) : Option Lead :=
  if octet < 0x80 then some ⟨0, 0, 0, octet⟩
  else if octet < 0xC2 then none
  else if octet < 0xE0 then some ⟨1, 0x80, 0xBF, octet - 0xC0⟩
  else if octet < 0xF0 then
    some ⟨2, if octet = 0xE0 then 0xA0 else 0x80, if octet = 0xED then 0x9F else 0xBF, octet - 0xE0⟩
  else if octet < 0xF5 then
    some ⟨3, if octet = 0xF0 then 0x90 else 0x80, if octet = 0xF4 then 0x8F else 0xBF, octet - 0xF0⟩
  else none

/-- Reads `tail` further octets of a character, the next one in a range and the others any
continuation octet. The answer is the code point, or the reason for the fault and how many octets
were read before it. -/
def readTail : (tail low high bits : Nat) → (octets : List Nat) → Except (Reason × Nat) Nat
  | 0, _, _, bits, _ => .ok bits
  | _ + 1, _, _, _, [] => .error (.truncated, 0)
  | tail + 1, low, high, bits, octet :: rest =>
    if low ≤ octet && octet ≤ high then
      match readTail tail 0x80 0xBF (bits * 64 + (octet - 0x80)) rest with
      | .ok code => .ok code
      | .error (reason, read) => .error (reason, read + 1)
    else .error (.continuation, 0)

/-- Reads octets from an offset on; `skip` octets are left of a character already read. -/
def decodeFrom (offset : Nat) : (skip : Nat) → List Nat → Except Fault (List Char)
  | _, [] => .ok []
  | skip + 1, _ :: rest => decodeFrom (offset + 1) skip rest
  | 0, octet :: rest =>
    match lead? octet with
    | none => .error ⟨.start, offset, 1, octet⟩
    | some lead =>
      match readTail lead.tail lead.low lead.high lead.bits rest with
      | .error (reason, read) => .error ⟨reason, offset, read + 1, octet⟩
      | .ok code => (decodeFrom (offset + 1) lead.tail rest).map (Char.ofNat code :: ·)

/-- The text that octets spell. -/
def decode (octets : List Nat) : Except Fault (List Char) :=
  decodeFrom 0 0 octets

end TurtleScript.Text.Utf8
