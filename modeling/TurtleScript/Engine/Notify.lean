import TurtleScript.Engine.Step

/-!
Telling the observers. A notification shows one snapshot to every subscription that was in force
when it began. An observer may respond by acting on the engine, and a reset notifies again from
inside; since every response is given once, the nesting is bounded by the responses that are left.
The first failure ends the notification.
-/
namespace TurtleScript

namespace Engine

/-- What an operation that may notify gives: its answer or its error, and the engine it leaves. -/
abbrev Result (α : Type) := Except EngineError α × Engine

/-- The engine with its observers changed. -/
def withObservers (e : Engine) (change : Observers → Observers) : Engine :=
  { e with observers := change e.observers }

/-- Puts the turtle at a start with a fresh pen of its color, and starts a new drawing. -/
def restart (e : Engine) (pose : Pose) : Engine :=
  { e with
    turtle := .fresh { pose with angle := normalizeAngle pose.angle } e.turtle.color
    drawings := e.drawings.renew
    running := false
    currentStep := -1 }

/-- `TurtleEngine.reset`: resets to a start position, the middle of the canvas by default, and
notifies with `tell`. -/
def resetWith (tell : Engine → Result Unit) (e : Engine) (start : Option Pose) : Result Unit :=
  match start.elim (centerOf e.width e.height) Except.ok with
  | .error fault => (.error (.number fault), e)
  | .ok pose => tell (e.restart pose)

/-- What an observer's response does. -/
def respond (tell : Engine → Result Unit) (name : String) (e : Engine) : Response → Result Unit
  | .stop => (.ok (), e.stop)
  | .fail => (.error (.observerFailed name), e)
  | .misuse fault => (.error (.number fault), e)
  | .reset start => e.resetWith tell start
  | .color color => (.ok (), e.setColor color)
  | .apply command =>
    match e.apply command with
    | .error error => (.error error, e)
    | .ok (_, after) => (.ok (), after)
  | .unsubscribe ticket => (.ok (), e.withObservers (·.unsubscribe ticket))
  | .subscribe other => (.ok (), e.withObservers (·.subscribe other []))
  | .start =>
    (.ok (), if e.active then e.withObservers (·.note (.refused name .inProgress)) else e)

/-- The responses of an observer, one after the other. -/
def respondAll (tell : Engine → Result Unit) (name : String) : Engine → List Reaction → Result Unit
  | e, [] => (.ok (), e)
  | e, reaction :: rest =>
    match e.respond tell name reaction.response with
    | (.error error, after) => (.error error, after)
    | (.ok _, after) => respondAll tell name after rest

/-- Shows a snapshot to an observer, which then gives the responses that are due. -/
def tellOne (tell : Engine → Result Unit) (snapshot : Snapshot) (e : Engine) (name : String) :
    Result Unit :=
  let noted := e.observers.note (.shown name snapshot)
  let (due, observers) := noted.takeDue name snapshot.currentStep
  respondAll tell name { e with observers } due

/-- `TurtleEngine._notify`, the loop: shows a snapshot to observers, one after the other. -/
def tellEach (tell : Engine → Result Unit) (snapshot : Snapshot) : Engine → List String → Result Unit
  | e, [] => (.ok (), e)
  | e, name :: rest =>
    match e.tellOne tell snapshot name with
    | (.error error, after) => (.error error, after)
    | (.ok _, after) => tellEach tell snapshot after rest

/-- Notifies the subscriptions in force, up to a depth of nested notifications. -/
def notifyWithin : (depth : Nat) → Engine → Result Unit
  | 0, e => (.ok (), e)
  | depth + 1, e => tellEach (notifyWithin depth) e.snapshot e e.observers.subscribed

/-- `TurtleEngine._notify`: notifies the subscriptions in force. -/
def notify (e : Engine) : Result Unit :=
  notifyWithin (e.observers.pending + 1) e

/-- `TurtleEngine.reset`: resets to a start position, the middle of the canvas by default. -/
def reset (e : Engine) (start : Option Pose) : Result Unit :=
  e.resetWith notify start

end Engine

end TurtleScript
