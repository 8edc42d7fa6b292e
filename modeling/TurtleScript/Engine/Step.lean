import TurtleScript.Engine.Basic
import TurtleScript.Turtle.Geometry

/-!
Single commands. What a command does is first found out and then done, so a command that is refused
leaves no trace.
-/
namespace TurtleScript

namespace Engine

/-- `TurtleEngine.destination`: where a movement would lead. -/
def destination (e : Engine) (c : Command) : Except EngineError Point :=
  match c.value with
  | none => .error (.missingValue c)
  | some value =>
    let pose := e.turtle.pose
    let heading := radians pose.angle
    if heading.isInf then .error (.number .domain)
    else
      match (if c.kind = .back then value.neg else value).toFloat with
      | .error fault => .error (.number fault)
      | .ok distance =>
        .ok ⟨pose.x + heading.cos * distance, pose.y - heading.sin * distance⟩

/-- `TurtleEngine.within_bounds`: whether a point is on the canvas, edges included. -/
def within (e : Engine) (p : Point) : Bool :=
  0.0 ≤ p.x && e.width.atLeast p.x && 0.0 ≤ p.y && e.height.atLeast p.y

/-- What a single command does to an engine. -/
inductive Effect where
  /-- The turtle moves to a point, and the movement is drawn. -/
  | move (target : Point)
  /-- A movement would leave the canvas, and nothing is done. -/
  | blocked
  /-- The turtle turns to an angle. -/
  | turn (angle : Float)
  /-- The pen is lifted or lowered. -/
  | pen (down : Bool)
  /-- A new drawing is started. -/
  | clear
  /-- The pen takes a color. -/
  | color (color : String)

/-- Whether a command could be done. -/
def Effect.done : Effect → Bool
  | .blocked => false
  | _ => true

/-- The effect of a turn: the new heading is brought into range. -/
def turnEffect (c : Command) (turned : Float → Float) : Except EngineError Effect :=
  match c.value with
  | none => .error (.missingValue c)
  | some value =>
    match value.toFloat with
    | .error fault => .error (.number fault)
    | .ok degrees => .ok (.turn (normalizeAngle (turned degrees)))

/-- `TurtleEngine.apply_command`, up to where it changes anything: what a command does to an engine;
a repetition and an unknown command are no single steps. -/
def effect (e : Engine) (c : Command) : Except EngineError Effect :=
  match c.kind with
  | .forward | .back =>
    match e.destination c with
    | .error error => .error error
    | .ok p => .ok (if e.within p then .move p else .blocked)
  | .left => turnEffect c fun degrees => e.turtle.pose.angle + degrees
  | .right => turnEffect c fun degrees => e.turtle.pose.angle - degrees + 360.0
  | .penUp => .ok (.pen false)
  | .penDown => .ok (.pen true)
  | .clear => .ok .clear
  | .color =>
    match c.value with
    | none => .error (.missingValue c)
    | some value =>
      match e.palette.color value with
      | .error fault => .error (.number fault)
      | .ok color => .ok (.color color)
  | .repetition | .other _ => .error (.notAStep c)

/-- The engine after a movement to a point has been drawn. -/
def moveTo (e : Engine) (p : Point) : Engine :=
  let instruction : Instruction :=
    ⟨if e.turtle.penDown then .line else .move, e.turtle.pose.point, p, e.turtle.color,
      e.turtle.penSize⟩
  { e with
    drawings := e.drawings.append instruction
    turtle := { e.turtle with pose := ⟨p.x, p.y, e.turtle.pose.angle⟩ } }

/-- The engine after an effect. -/
def commit (e : Engine) : Effect → Engine
  | .move p => e.moveTo p
  | .blocked => e
  | .turn angle => { e with turtle := { e.turtle with pose := { e.turtle.pose with angle } } }
  | .pen down => { e with turtle := { e.turtle with penDown := down } }
  | .clear => { e with drawings := e.drawings.renew }
  | .color color => e.setColor color

/-- `TurtleEngine.apply_command`, whole: applies one command. The answer is whether it could be
done: a movement that would leave the canvas changes nothing, and neither does a command that is
refused. -/
def apply (e : Engine) (c : Command) : Except EngineError (Bool × Engine) :=
  match e.effect c with
  | .error error => .error error
  | .ok effect => .ok (effect.done, e.commit effect)

end Engine

end TurtleScript
