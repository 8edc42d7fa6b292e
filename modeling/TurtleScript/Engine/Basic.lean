import TurtleScript.Engine.Observer
import TurtleScript.Turtle.Obstacle
import TurtleScript.Turtle.Palette

/-!
An engine: one turtle, its drawing, and what observers may know about the run in progress.
-/
namespace TurtleScript

/-! ## Speed -/

/-- `DEFAULT_ANIMATION_SPEED`: the delay in milliseconds that an engine has by default. -/
def defaultSpeed : Int := 100

/-- `MIN_ANIMATION_SPEED`: the least delay. -/
def leastSpeed : Int := 10

/-- `MAX_ANIMATION_SPEED`: the greatest delay. -/
def greatestSpeed : Int := 1000

/-- `clamp_speed`: a delay brought into the allowed range; a fraction is cut off. -/
def clampSpeed (speed : Number) : Except NumberFault Int :=
  speed.trunc.map fun whole => max leastSpeed (min greatestSpeed whole)

/-! ## Results -/

/-- `ExecutionStatus`: how a run ended. -/
inductive Status where
  /-- All steps were made. -/
  | completed
  /-- It was asked to stop. -/
  | stopped
  /-- A movement would have left the canvas. -/
  | boundary
  /-- A movement would have hit an obstacle. -/
  | obstacle
deriving Repr, DecidableEq

namespace Status

/-- All ways to end. -/
def all : List Status := [.completed, .stopped, .boundary, .obstacle]

/-- The word for an ending. -/
def word : Status → String
  | .completed => "completed"
  | .stopped => "stopped"
  | .boundary => "boundary"
  | .obstacle => "obstacle"

/-- `ExecutionStatus.succeeded`: whether nothing was in the way. -/
def succeeded : Status → Bool
  | .completed | .stopped => true
  | _ => false

end Status

/-- `ExecutionResult`: how the last run ended. -/
structure RunResult where
  /-- How it ended. -/
  status : Status
  /-- The step at which it ended. -/
  step : Int
  /-- The obstacle in the way, if any. -/
  obstacle : Option Obstacle

/-! ## The engine -/

/-- `TurtleEngine`: one turtle and the run it may be in. -/
structure Engine where
  /-- Width of the canvas. -/
  width : Number
  /-- Height of the canvas. -/
  height : Number
  /-- The colors that programs choose from. -/
  palette : Palette
  /-- The greatest number of steps of a program, if there is one. -/
  budget : Option Int
  /-- The delay after a step, in milliseconds. -/
  speed : Int
  /-- The turtle. -/
  turtle : Turtle
  /-- How often a pen size has been chosen. -/
  penChoices : Nat
  /-- What it has drawn. -/
  drawings : Drawings
  /-- Whether a run is going on and has not been asked to stop. -/
  running : Bool
  /-- Whether a run is under way. -/
  active : Bool
  /-- The step of the run, -1 when there is none. -/
  currentStep : Int
  /-- The number of steps of the run, or of the last one. -/
  totalSteps : Nat
  /-- How the last run ended. -/
  lastResult : Option RunResult
  /-- Who is told about it. -/
  observers : Observers

/-- What an engine is made from. -/
structure Setup where
  /-- Width of the canvas. -/
  width : Number := .whole 800
  /-- Height of the canvas. -/
  height : Number := .whole 600
  /-- The delay after a step, in milliseconds. -/
  speed : Number := .whole defaultSpeed
  /-- The colors that programs choose from. -/
  colors : List String := Palette.standard.colors
  /-- The greatest number of steps of a program, if there is one. -/
  budget : Option Int := none
  /-- Where the turtle starts; the centre by default. -/
  start : Option Pose := none

/-- `TurtleEngine.center`: the middle of a canvas, heading right. -/
def centerOf (width height : Number) : Except NumberFault Pose := do
  let x ← width.half
  let y ← height.half
  return ⟨x, y, 0.0⟩

namespace Engine

/-- A new engine. -/
def create (setup : Setup) : Except EngineError Engine :=
  match Palette.ofList? setup.colors with
  | none => .error .emptyPalette
  | some palette =>
    match clampSpeed setup.speed with
    | .error fault => .error (.number fault)
    | .ok speed =>
      match setup.start.elim (centerOf setup.width setup.height) Except.ok with
      | .error fault => .error (.number fault)
      | .ok pose =>
        .ok
          { width := setup.width
            height := setup.height
            palette
            budget := setup.budget
            speed
            turtle := .fresh pose palette.first
            penChoices := 0
            drawings := .empty
            running := false
            active := false
            currentStep := -1
            totalSteps := 0
            lastResult := none
            observers := .nobody }

/-- The current drawing. -/
def drawing (e : Engine) : List Instruction :=
  e.drawings.current.toList

/-- `TurtleEngine.snapshot`: what an observer sees now. -/
def snapshot (e : Engine) : Snapshot :=
  ⟨e.turtle, .ofCurrent e.drawings, e.running, e.currentStep, e.totalSteps⟩

/-- `TurtleEngine.set_color`: changes the color of the pen. -/
def setColor (e : Engine) (color : String) : Engine :=
  { e with turtle := { e.turtle with color } }

/-- Chooses the size of the pen. -/
def setPenSize (e : Engine) (size : Float) : Engine :=
  { e with
    turtle := { e.turtle with penSize := ⟨size, e.penChoices⟩ }
    penChoices := e.penChoices + 1 }

/-- `TurtleEngine.set_animation_speed`: changes the delay after a step. -/
def setSpeed (e : Engine) (speed : Number) : Except NumberFault Engine :=
  (clampSpeed speed).map fun speed => { e with speed }

/-- `TurtleEngine.step_delay`: the delay after a step, in seconds: a tenth of the speed, but at
least a millisecond. -/
def stepDelay (e : Engine) : Float :=
  let tenth := Binary64.ofInt e.speed / 10.0
  (if tenth > 1.0 then tenth else 1.0) / 1000.0

/-- `TurtleEngine.stop_execution`: asks the run to stop before its next step. -/
def stop (e : Engine) : Engine :=
  { e with running := false }

end Engine

end TurtleScript
