import TurtleScript.Turtle.Basic

/-!
Distances, headings and the length of a drawing.
-/
namespace TurtleScript

/-- `normalize_angle`: degrees brought into the range from 0 to below 360. Bringing a tiny negative
angle into range can round up to 360 itself, which is then 0. -/
def normalizeAngle (angle : Float) : Float :=
  let reduced := Binary64.modulo angle 360
  if reduced ≥ 360.0 then 0.0 else reduced

/-- Degrees as radians. -/
def radians (degrees : Float) : Float :=
  degrees * (3.141592653589793 / 180.0)

/-- Radians as degrees. -/
def degrees (radians : Float) : Float :=
  radians * (180.0 / 3.141592653589793)

/-- `calculate_distance`: the distance between two points. -/
def distance (a b : Point) : Float :=
  Binary64.hypotenuse (b.x - a.x) (b.y - a.y)

/-- `calculate_angle`: the heading in degrees from one point to another. -/
def headingTo (a b : Point) : Float :=
  degrees (Float.atan2 (a.y - b.y) (b.x - a.x))

/-- `total_path_length`: the summed length of the movements that `counts` selects, added from the
first one on. -/
def pathLength (counts : Stroke → Bool) (drawing : List Instruction) : Float :=
  (drawing.filter fun i => counts i.stroke).foldl (fun sum i => sum + distance i.start i.finish) 0.0

/-- The length that was drawn. -/
def drawnLength (drawing : List Instruction) : Float :=
  pathLength (· = .line) drawing

/-- `stroke_count`: the number of movements that drew. -/
def strokeCount (drawing : List Instruction) : Nat :=
  (drawing.filter fun i => i.stroke = .line).length

end TurtleScript
