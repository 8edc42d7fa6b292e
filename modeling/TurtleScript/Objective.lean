import TurtleScript.Data.Value
import TurtleScript.Turtle.Geometry

/-!
Objectives of levels: what a player has to achieve, checked against the turtle and the drawing at
the end.
-/
namespace TurtleScript

/-- What a level asks for. -/
inductive Objective where
  /-- A drawn length of at least this. -/
  | minLength (length : Float)
  /-- A shape with at least so many strokes. -/
  | shape (name : String) (sides : Int)
  /-- An end within a radius of a point. -/
  | goal (x y radius : Float)
  /-- A pattern with at least so many strokes. -/
  | pattern (name : String) (strokes : Int)

/-- Why a record is not an objective. -/
inductive ObjectiveFault where
  /-- A kind that levels do not use. -/
  | unknownKind (kind : String)
  /-- A field that is not there. -/
  | missingField (kind name : String)
  /-- A field of the wrong type or value, or one that cannot be told. -/
  | badField (fault : FieldFault)
deriving Repr, DecidableEq

/-- The wording of a fault. -/
def ObjectiveFault.message : ObjectiveFault → String
  | .unknownKind kind => s!"Unknown objective kind: {kind}"
  | .missingField kind name => s!"Objective '{kind}' is missing field '{name}'"
  | .badField fault => fault.message

namespace Objective

/-- The radius of a goal that gives none. -/
def defaultRadius : Float := 30.0

/-- The number of strokes of a pattern that gives none. -/
def defaultStrokes : Int := 50

/-- A field of a record. -/
def field (fields : List (String × Value)) (kind name : String) : Except ObjectiveFault Value :=
  match fields.lookup name with
  | some value => .ok value
  | none => .error (.missingField kind name)

/-- A value as a real number. -/
def real (value : Value) : Except ObjectiveFault Float :=
  value.toFloat.mapError .badField

/-- A value as a whole number. -/
def whole (value : Value) : Except ObjectiveFault Int :=
  value.toWhole.mapError .badField

/-- A value as a text. -/
def shown (value : Value) : Except ObjectiveFault String :=
  value.shown.mapError fun fault => .badField (.number fault)

/-- `objective_from_dict`: the objective that a record describes. -/
def ofFields (fields : List (String × Value)) : Except ObjectiveFault Objective :=
  let kind := (fields.lookup "kind").getD .null
  match kind with
  | .text "min_length" => do
    let length ← real (← field fields "min_length" "min_length")
    return .minLength length
  | .text "shape" => do
    let name ← shown (← field fields "shape" "shape")
    let sides ← whole (← field fields "shape" "sides")
    return .shape name sides
  | .text "goal" => do
    let x ← real (← field fields "goal" "x")
    let y ← real (← field fields "goal" "y")
    let radius ← real ((fields.lookup "radius").getD (.number (.real defaultRadius)))
    return .goal x y radius
  | .text "pattern" => do
    let name ← shown (← field fields "pattern" "pattern")
    let strokes ← whole ((fields.lookup "min_strokes").getD (.number (.whole defaultStrokes)))
    return .pattern name strokes
  | _ => do
    let text ← shown kind
    throw (.unknownKind text)

/-- `check_objective`: whether an objective is met by a turtle and a drawing. -/
def met (objective : Objective) (turtle : Turtle) (drawing : List Instruction) : Bool :=
  match objective with
  | .minLength length => drawnLength drawing ≥ length
  | .shape _ sides => Int.ofNat (strokeCount drawing) ≥ sides
  | .goal x y radius => distance turtle.pose.point ⟨x, y⟩ < radius
  | .pattern _ strokes => Int.ofNat (strokeCount drawing) ≥ strokes

/-- The wording of the refusal to check what is no objective. -/
def unsupportedMessage (value : Value) : Except NumberFault String :=
  value.inner.map fun text => s!"Unsupported objective: {text}"

end Objective

end TurtleScript
