import TurtleScript.Engine.Run

/-!
A session: an engine and the one run that may be suspended on it, driven by operations that come in
any order. An operation that is refused or fails leaves the session usable.
-/
namespace TurtleScript

/-- An engine and its suspended run. -/
structure Session where
  /-- The engine. -/
  engine : Engine
  /-- The run that is suspended. -/
  run : Option Run

/-- What can be done with a session. -/
inductive Operation where
  /-- Starts a run and makes its first step. -/
  | start (commands : List Command) (obstacles : List Obstacle)
  /-- Starts a run and resumes it until it ends. -/
  | execute (commands : List Command) (obstacles : List Obstacle)
  /-- Resumes the suspended run at most so many times. -/
  | resume (count : Nat)
  /-- Resumes the suspended run until it ends. -/
  | finish
  /-- Cancels the suspended run. -/
  | cancel
  /-- Asks the run to stop. -/
  | stop
  /-- Resets the engine. -/
  | reset (start : Option Pose)
  /-- Applies a command. -/
  | apply (command : Command)
  /-- Changes the color. -/
  | setColor (color : String)
  /-- Changes the size of the pen. -/
  | setPenSize (size : Float)
  /-- Changes the delay. -/
  | setSpeed (speed : Number)
  /-- Subscribes an observer. -/
  | subscribe (name : String) (reactions : List Reaction)
  /-- Gives up a subscription. -/
  | unsubscribe (ticket : Nat)

/-- What an operation answers. -/
inductive Answer where
  /-- Nothing to say. -/
  | done
  /-- Whether a command could be applied. -/
  | applied (success : Bool)
  /-- The ticket of a new subscription. -/
  | ticket (number : Nat)
  /-- How far a run got; it is suspended or has returned. -/
  | ran (stretch : Stretch)
  /-- There is no suspended run. -/
  | noRun
  /-- The operation or the run failed. -/
  | failed (error : EngineError)

namespace Session

/-- A new engine without a run. -/
def ofEngine (engine : Engine) : Session := ⟨engine, none⟩

/-- The answer about a run that was driven for a while. -/
def answerOf (stretch : Stretch) : Answer :=
  match stretch.progress with
  | .raised error => .failed error
  | _ => .ran stretch

/-- The run that is left after it was driven for a while. -/
def runOf (stretch : Stretch) : Option Run :=
  match stretch.progress with
  | .suspended run _ => some run
  | _ => none

/-- The session after a run of its own was driven for a while. -/
def drove (result : Stretch × Engine) : Answer × Session :=
  (answerOf result.1, ⟨result.2, runOf result.1⟩)

/-- Starts a run. While one is suspended the engine refuses, and that one stays. -/
def started (s : Session) (result : Stretch × Engine) : Answer × Session :=
  match s.run with
  | none => drove result
  | some run => (answerOf result.1, ⟨result.2, some run⟩)

/-- The answer of an operation of the engine that may notify. -/
def told (s : Session) (result : Engine.Result Unit) : Answer × Session :=
  match result with
  | (.ok _, engine) => (.done, { s with engine })
  | (.error error, engine) => (.failed error, { s with engine })

/-- Performs one operation. -/
def perform (s : Session) : Operation → Answer × Session
  | .start commands obstacles => s.started (s.engine.startTimes 0 commands obstacles)
  | .execute commands obstacles => s.started (s.engine.execute commands obstacles)
  | .resume count =>
    match s.run with
    | none => (.noRun, s)
    | some run => drove (s.engine.resumeTimes count run)
  | .finish =>
    match s.run with
    | none => (.noRun, s)
    | some run => drove (s.engine.resumeToEnd run)
  | .cancel =>
    match s.run with
    | none => (.noRun, s)
    | some _ =>
      let (progress, engine) := s.engine.cancel
      drove (⟨progress, 0, none⟩, engine)
  | .stop => (.done, { s with engine := s.engine.stop })
  | .reset start => s.told (s.engine.reset start)
  | .apply command =>
    match s.engine.apply command with
    | .error error => (.failed error, s)
    | .ok (success, engine) => (.applied success, { s with engine })
  | .setColor color => (.done, { s with engine := s.engine.setColor color })
  | .setPenSize size => (.done, { s with engine := s.engine.setPenSize size })
  | .setSpeed speed =>
    match s.engine.setSpeed speed with
    | .error fault => (.failed (.number fault), s)
    | .ok engine => (.done, { s with engine })
  | .subscribe name reactions =>
    let engine := s.engine.withObservers (·.subscribe name reactions)
    (.ticket s.engine.observers.tickets.length, { s with engine })
  | .unsubscribe ticket =>
    (.done, { s with engine := s.engine.withObservers (·.unsubscribe ticket) })

/-- The session after operations in order. -/
def performAll (s : Session) (operations : List Operation) : Session :=
  operations.foldl (fun s operation => (s.perform operation).2) s

/-- Takes what the observers have been told since it was last taken. -/
def takeEvents (s : Session) : List Event × Session :=
  (s.engine.observers.events.toList,
    { s with engine := s.engine.withObservers fun o => { o with events := #[] } })

end Session

end TurtleScript
