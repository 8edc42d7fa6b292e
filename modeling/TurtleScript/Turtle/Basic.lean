import TurtleScript.Number.Binary64

/-!
The turtle: where it is, where it heads, and its pen. Angles are in degrees, counter-clockwise from
the right; the vertical axis points down.
-/
namespace TurtleScript

/-- A point of the canvas plane. -/
structure Point where
  /-- Distance from the left edge. -/
  x : Float
  /-- Distance from the top edge. -/
  y : Float
deriving DecidableEq

/-- `TurtlePosition`: a position and heading. -/
structure Pose where
  /-- Distance from the left edge. -/
  x : Float
  /-- Distance from the top edge. -/
  y : Float
  /-- Heading in degrees. -/
  angle : Float
deriving DecidableEq

/-- The position of a pose. -/
def Pose.point (p : Pose) : Point := ⟨p.x, p.y⟩

/-- The size of a pen. What is not a number is no size to compare: it is the same only as itself,
and the number of the choice tells it from another one. -/
structure PenSize where
  /-- The size. -/
  value : Float
  /-- The number of the choice that gave it. -/
  choice : Nat := 0
deriving DecidableEq

/-- Whether two pens have the same size. -/
def PenSize.same (a b : PenSize) : Bool :=
  a.value == b.value || (a.value.isNaN && b.value.isNaN && a.choice == b.choice)

/-- The pen size of a fresh turtle. -/
def defaultPenSize : PenSize := ⟨2.0, 0⟩

/-- `TurtleState`: a turtle. -/
structure Turtle where
  /-- Where it is and where it heads. -/
  pose : Pose
  /-- Whether its pen draws. -/
  penDown : Bool
  /-- The color of its pen. -/
  color : String
  /-- The size of its pen. -/
  penSize : PenSize
deriving DecidableEq

/-- A fresh turtle: pen down, default size. -/
def Turtle.fresh (pose : Pose) (color : String) : Turtle :=
  ⟨pose, true, color, defaultPenSize⟩

/-- Whether a movement drew. -/
inductive Stroke where
  /-- The pen was down. -/
  | line
  /-- The pen was up. -/
  | move
  /-- A movement of an unknown sort. -/
  | other (name : String)
deriving Repr, DecidableEq

/-- The name of a stroke. -/
def Stroke.name : Stroke → String
  | .line => "line"
  | .move => "move"
  | .other name => name

/-- The stroke of a name. -/
def Stroke.ofName (name : String) : Stroke :=
  if name = "line" then .line else if name = "move" then .move else .other name

/-- `DrawingInstruction`: one movement of the turtle. -/
structure Instruction where
  /-- Whether it drew. -/
  stroke : Stroke
  /-- Where it started. -/
  start : Point
  /-- Where it ended. -/
  finish : Point
  /-- The color of the pen. -/
  color : String
  /-- The size of the pen. -/
  penSize : PenSize
deriving DecidableEq

/-- Whether two points are the same. -/
def Point.same (p q : Point) : Bool :=
  p.x == q.x && p.y == q.y

/-- Whether two instructions are the same. -/
def Instruction.same (a b : Instruction) : Bool :=
  a.stroke = b.stroke && a.start.same b.start && a.finish.same b.finish && a.color = b.color &&
    a.penSize.same b.penSize

end TurtleScript
