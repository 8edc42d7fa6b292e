import TurtleScript.Data.Table

/-!
The commands of the language and the words that name them. Nine commands are known; any other name
can be given by a keyword table or a hand-built program and is carried along until something has to
be done with it.
-/
namespace TurtleScript

/-- What a command does. -/
inductive Kind where
  /-- Move along the heading. -/
  | forward
  /-- Move against the heading. -/
  | back
  /-- Turn counter-clockwise. -/
  | left
  /-- Turn clockwise. -/
  | right
  /-- Lift the pen. -/
  | penUp
  /-- Lower the pen. -/
  | penDown
  /-- Empty the drawing. -/
  | clear
  /-- Take a color of the palette. -/
  | color
  /-- Run a body several times. -/
  | repetition
  /-- A name that is no command. -/
  | other (name : String)
deriving Repr, DecidableEq, Inhabited

namespace Kind

/-- `CANONICAL_COMMANDS`: the commands in the order of their slots. -/
def canonical : List Kind :=
  [.forward, .back, .left, .right, .penUp, .penDown, .clear, .color, .repetition]

/-- The name of a command. -/
def name : Kind → String
  | .forward => "FORWARD"
  | .back => "BACK"
  | .left => "LEFT"
  | .right => "RIGHT"
  | .penUp => "PENUP"
  | .penDown => "PENDOWN"
  | .clear => "CLEAR"
  | .color => "COL"
  | .repetition => "REPEAT"
  | .other name => name

/-- The command of a name, if it names one. -/
def command? (name : String) : Option Kind :=
  canonical.find? fun kind => kind.name = name

/-- The command of a name. -/
def ofName (name : String) : Kind :=
  (command? name).getD (.other name)

/-- The name of what a name stands for is the name. -/
theorem name_ofName (name : String) : (ofName name).name = name := by
  unfold ofName command?
  cases found : canonical.find? fun kind => kind.name = name with
  | none => rfl
  | some kind => simpa using List.find?_some found

/-- Whether a kind is one of the nine commands. -/
def isCanonical : Kind → Bool
  | .other _ => false
  | _ => true

/-- `VALUE_COMMANDS`: the commands with exactly one number. -/
def takesNumber : Kind → Bool
  | .forward | .back | .left | .right | .color => true
  | _ => false

/-- `NULLARY_COMMANDS`: the commands without an argument. -/
def standsAlone : Kind → Bool
  | .penUp | .penDown | .clear => true
  | _ => false

/-- `MOVEMENT_COMMANDS`: the commands that move the turtle. -/
def moves : Kind → Bool
  | .forward | .back => true
  | _ => false

end Kind

/-- The words that name commands. -/
abbrev Keywords := List (String × Kind)

/-- `CANONICAL_COMMAND_MAP`: the words every program may use. -/
def Keywords.standard : Keywords :=
  [("FORWARD", .forward), ("FD", .forward), ("BACK", .back), ("BK", .back), ("LEFT", .left),
    ("LT", .left), ("RIGHT", .right), ("RT", .right), ("PENUP", .penUp), ("PU", .penUp),
    ("PENDOWN", .penDown), ("PD", .penDown), ("CLEAR", .clear), ("COL", .color),
    ("COLOR", .color), ("REPEAT", .repetition)]

/-- The table of pairs of a word and a command name; the last entry for a word counts. -/
def Keywords.ofNames (pairs : List (String × String)) : Keywords :=
  Table.ofPairs (pairs.map fun pair => (pair.1, Kind.ofName pair.2))

end TurtleScript
