import TurtleScript.Turtle.Basic

/-!
Drawings as append-only logs. An engine writes to one log at a time and starts a new one when the
drawing is emptied; the old one is kept for whoever still looks at it. A view is a log and a length,
and shows that many of its first instructions whatever is appended later.
-/
namespace TurtleScript

/-- All logs an engine has written: the closed ones in order, and the current one. -/
structure Drawings where
  /-- Logs that are no longer written. -/
  closed : Array (Array Instruction)
  /-- The log that is written. -/
  current : Array Instruction

namespace Drawings

/-- No log but an empty current one. -/
def empty : Drawings := ⟨#[], #[]⟩

/-- The number of the current log. -/
def currentLog (d : Drawings) : Nat :=
  d.closed.size

/-- The log of a number. -/
def log (d : Drawings) (number : Nat) : Array Instruction :=
  if number = d.currentLog then d.current else d.closed.getD number #[]

/-- Appends an instruction to the current log. -/
def append (d : Drawings) (i : Instruction) : Drawings :=
  { d with current := d.current.push i }

/-- Starts a new, empty log. -/
def renew (d : Drawings) : Drawings :=
  ⟨d.closed.push d.current, #[]⟩

end Drawings

/-- `DrawingView`: the first instructions of a log. -/
structure View where
  /-- The number of the log. -/
  log : Nat
  /-- How many instructions are seen. -/
  length : Nat
deriving Repr, DecidableEq

namespace View

/-- All that is drawn now. -/
def ofCurrent (d : Drawings) : View :=
  ⟨d.currentLog, d.current.size⟩

/-- The instructions a view shows. -/
def items (v : View) (d : Drawings) : List Instruction :=
  ((d.log v.log).extract 0 v.length).toList

/-- `DrawingView.__getitem__`: the instruction at an index; a negative one counts from the end of
the view. -/
def get? (v : View) (d : Drawings) (index : Int) : Option Instruction :=
  let place := if index < 0 then index + Int.ofNat v.length else index
  if 0 ≤ place && place < Int.ofNat v.length then (d.log v.log)[place.toNat]? else none

/-- A view as listings show it. -/
def shown (v : View) : String :=
  s!"DrawingView({v.length} instructions)"

end View

/-- Whether two drawings hold the same instructions in the same order. -/
def sameDrawing : List Instruction → List Instruction → Bool
  | [], [] => true
  | a :: as, b :: bs => a.same b && sameDrawing as bs
  | _, _ => false

/-- The wording of the refusal of an index outside a view. -/
def viewIndexMessage : String := "drawing index out of range"

end TurtleScript
