import TurtleScript.Storage.DataFile
import TurtleScript.Turtle.Obstacle

/-!
What a level gives to a run: where the turtle starts, as a text, and what is in its way, as a data
file.
-/
namespace TurtleScript

open Text

/-! ## Start -/

/-- Why a text is no start position. -/
inductive StartFault where
  /-- There are not two or three parts. -/
  | shape (text : String)
  /-- A part is no number. -/
  | number (fault : NumeralFault)
deriving Repr, DecidableEq

/-- The wording of a fault. -/
def StartFault.message : StartFault → String
  | .shape text => s!"Start position must be X,Y[,ANGLE], got {quoted text}"
  | .number fault => fault.message

/-- The numbers of texts, up to the first text that is none. -/
def readReals : List String → Except NumeralFault (List Float)
  | [] => .ok []
  | text :: rest =>
    match Reading.real text with
    | .error fault => .error fault
    | .ok number => (readReals rest).map (number :: ·)

/-- `parse_start`: the start position that a text spells: two coordinates and, if given, a
heading. -/
def Pose.ofText (text : String) : Except StartFault Pose :=
  let parts := commaParts text
  if parts.length = 2 || parts.length = 3 then
    match readReals parts with
    | .error fault => .error (.number fault)
    | .ok [x, y] => .ok ⟨x, y, 0.0⟩
    | .ok [x, y, angle] => .ok ⟨x, y, angle⟩
    | .ok _ => .error (.shape text)
  else .error (.shape text)

/-! ## Obstacles -/

/-- Why a file gives no obstacles. -/
inductive ObstaclesFault where
  /-- The file is not read. -/
  | unreadable (fault : DataFault)
  /-- The file holds no list. -/
  | notList
  /-- An item of the list is no record. -/
  | notRecord (index : Nat)
  /-- A record is no obstacle. -/
  | obstacle (fault : ObstacleFault)
deriving Repr, DecidableEq

/-- The wording of a fault. -/
def ObstaclesFault.message : ObstaclesFault → String
  | .unreadable fault => fault.message
  | .notList => "Obstacle file must contain a JSON list"
  | .notRecord index => s!"Obstacle #{index} must be a JSON object"
  | .obstacle fault => fault.message

/-- The obstacles of items, the first of which has a number, up to the first that is none. -/
def obstaclesFrom (index : Nat) : List Value → Except ObstaclesFault (List Obstacle)
  | [] => .ok []
  | .record fields :: rest =>
    match Obstacle.ofFields fields with
    | .error fault => .error (.obstacle fault)
    | .ok obstacle => (obstaclesFrom (index + 1) rest).map (obstacle :: ·)
  | _ :: _ => .error (.notRecord index)

/-- The obstacles of a value. -/
def obstaclesOf : Value → Except ObstaclesFault (List Obstacle)
  | .list items => obstaclesFrom 0 items
  | _ => .error .notList

/-- `load_obstacles`: the obstacles in a file. -/
def Files.readObstacles (files : Files) (path : String) : Except ObstaclesFault (List Obstacle) :=
  match files.readValue path with
  | .error fault => .error (.unreadable fault)
  | .ok value => obstaclesOf value

end TurtleScript
