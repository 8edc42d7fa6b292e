import TurtleScript.Data.Value
import TurtleScript.Turtle.Basic

/-!
Obstacles: rectangles with sides along the axes, given by a level. A movement that would end in one
is refused.
-/
namespace TurtleScript

/-- What an obstacle is. -/
inductive ObstacleKind where
  /-- A wall. -/
  | wall
  /-- A goal. -/
  | goal
  /-- A hazard. -/
  | hazard
  /-- Anything else. -/
  | other (name : String)
deriving Repr, DecidableEq

/-- The name of an obstacle's kind. -/
def ObstacleKind.name : ObstacleKind → String
  | .wall => "wall"
  | .goal => "goal"
  | .hazard => "hazard"
  | .other name => name

/-- The kind of a name that a level may use. -/
def ObstacleKind.known? (name : String) : Option ObstacleKind :=
  [ObstacleKind.wall, .goal, .hazard].find? fun kind => kind.name = name

/-- The kind of a name. -/
def ObstacleKind.ofName (name : String) : ObstacleKind :=
  (ObstacleKind.known? name).getD (.other name)

/-- A rectangle in the way. -/
structure Obstacle where
  /-- Left edge. -/
  x : Float
  /-- Top edge. -/
  y : Float
  /-- Extent to the right. -/
  width : Float
  /-- Extent downwards. -/
  height : Float
  /-- What it is. -/
  kind : ObstacleKind
deriving DecidableEq

/-- Whether a point lies in an obstacle, edges included. -/
def Obstacle.contains (o : Obstacle) (p : Point) : Bool :=
  o.x ≤ p.x && p.x ≤ o.x + o.width && o.y ≤ p.y && p.y ≤ o.y + o.height

/-- `TurtleEngine.find_obstacle`: the first obstacle that a point lies in. -/
def findObstacle (p : Point) (obstacles : List Obstacle) : Option Obstacle :=
  obstacles.find? (·.contains p)

/-- Why a record is not an obstacle. -/
inductive ObstacleFault where
  /-- A kind that levels do not use. -/
  | unknownKind (kind : String)
  /-- A kind that levels do not use, and that cannot be told. -/
  | untoldKind (fault : NumberFault)
  /-- A field that is not there. -/
  | missingField (name : String)
  /-- A field that is no number. -/
  | notNumber (fault : FieldFault)
  /-- A whole number beyond the double-precision range. -/
  | tooLarge
deriving Repr, DecidableEq

/-- The wording of a fault. -/
def ObstacleFault.message : ObstacleFault → String
  | .unknownKind kind => s!"Unknown obstacle kind: {kind}"
  | .untoldKind fault => fault.message
  | .missingField name => s!"Obstacle is missing field '{name}'"
  | .notNumber fault => s!"Obstacle fields must be numbers: {fault.message}"
  | .tooLarge => NumberFault.tooLarge.message

/-- The refusal of a kind that levels do not use. -/
def ObstacleFault.ofUnknown (kind : Value) : ObstacleFault :=
  match kind.shown with
  | .error fault => .untoldKind fault
  | .ok shown => .unknownKind shown

/-- A number field of an obstacle. -/
def obstacleField (fields : List (String × Value)) (name : String) :
    Except ObstacleFault Float :=
  match fields.lookup name with
  | none => .error (.missingField name)
  | some value =>
    match value.toFloat with
    | .ok x => .ok x
    | .error (.number _) => .error .tooLarge
    | .error fault => .error (.notNumber fault)

/-- The kind of an obstacle: its field `kind`, else `type`, else a wall. -/
def obstacleKind (fields : List (String × Value)) : Except ObstacleFault ObstacleKind :=
  let given := (fields.lookup "kind").getD ((fields.lookup "type").getD (.text "wall"))
  let known := match given with
    | .text name => ObstacleKind.known? name
    | _ => none
  match known with
  | some kind => .ok kind
  | none => .error (.ofUnknown given)

/-- `Obstacle.from_dict`: the obstacle that a record describes. The kind is looked at first, then
the number fields in order. -/
def Obstacle.ofFields (fields : List (String × Value)) : Except ObstacleFault Obstacle := do
  let kind ← obstacleKind fields
  let x ← obstacleField fields "x"
  let y ← obstacleField fields "y"
  let width ← obstacleField fields "width"
  let height ← obstacleField fields "height"
  return ⟨x, y, width, height, kind⟩

end TurtleScript
