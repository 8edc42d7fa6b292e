import TurtleScript.Engine.Error
import TurtleScript.Turtle.Drawing

/-!
Observers of an engine. They are known by name, they are shown a snapshot after every step, and each
may have responses for certain steps, every one of which is given once.
-/
namespace TurtleScript

/-- `EngineSnapshot`: what an observer sees. -/
structure Snapshot where
  /-- The turtle. -/
  turtle : Turtle
  /-- The drawing. -/
  drawing : View
  /-- Whether a run goes on. -/
  running : Bool
  /-- The step it is at, -1 when there is none. -/
  currentStep : Int
  /-- The number of its steps. -/
  totalSteps : Nat

/-- What an observer does when it is shown a step. -/
inductive Response where
  /-- Asks the run to stop. -/
  | stop
  /-- Fails. -/
  | fail
  /-- Fails because it uses a number that cannot be used. -/
  | misuse (fault : NumberFault)
  /-- Resets the engine. -/
  | reset (start : Option Pose)
  /-- Changes the color. -/
  | color (color : String)
  /-- Applies a command. -/
  | apply (command : Command)
  /-- Gives up a subscription. -/
  | unsubscribe (ticket : Nat)
  /-- Subscribes an observer that does nothing. -/
  | subscribe (name : String)
  /-- Tries to start another run. -/
  | start

/-- A response that is given once, when a step of a certain number is shown. -/
structure Reaction where
  /-- The number of the step. -/
  atStep : Int
  /-- What is done. -/
  response : Response

/-- What observers have been told. -/
inductive Event where
  /-- An observer was shown a snapshot. -/
  | shown (name : String) (snapshot : Snapshot)
  /-- An observer's attempt to start another run was refused. -/
  | refused (name : String) (error : EngineError)

/-- The observers of an engine. Subscriptions are a list of names, in the order in which they were
made; several may be of the same observer. -/
structure Observers where
  /-- The reactions that each known observer still has. -/
  reactions : List (String × List Reaction)
  /-- The names of the subscriptions that are in force. -/
  subscribed : List String
  /-- The name of every subscription ever made; its place is its ticket. -/
  tickets : List String
  /-- What observers have been told. -/
  events : Array Event

namespace Observers

/-- Nobody observes. -/
def nobody : Observers := ⟨[], [], [], #[]⟩

/-- `TurtleEngine.subscribe`: subscribes an observer; the reactions count only if it is new. -/
def subscribe (o : Observers) (name : String) (reactions : List Reaction) : Observers :=
  { o with
    reactions := if (o.reactions.lookup name).isSome then o.reactions
      else o.reactions ++ [(name, reactions)]
    subscribed := o.subscribed ++ [name]
    tickets := o.tickets ++ [name] }

/-- `TurtleEngine.subscribe`, the function that it returns: gives up a subscription, the first one
of the ticket's observer that is in force. -/
def unsubscribe (o : Observers) (ticket : Nat) : Observers :=
  match o.tickets[ticket]? with
  | some name => { o with subscribed := o.subscribed.erase name }
  | none => o

/-- Takes the reactions of an observer that are due at a step; they are not given again. Nothing is
lost by that. Within a run each of its steps is shown once, and what an observer does when a number
is shown again, at a reset or in another run, is done by another observer, which may be subscribed
at any time, under a name that is new and with any reactions: one that fails in every run is an
observer for each run. -/
def takeDue (o : Observers) (name : String) (step : Int) : List Reaction × Observers :=
  let known := (o.reactions.lookup name).getD []
  let due := known.filter fun r => r.atStep == step
  let later := known.filter fun r => !(r.atStep == step)
  (due, { o with
    reactions := o.reactions.map fun entry => if entry.1 = name then (name, later) else entry })

/-- Notes what an observer was told. -/
def note (o : Observers) (event : Event) : Observers :=
  { o with events := o.events.push event }

/-- How many reactions are left. -/
def pending (o : Observers) : Nat :=
  o.reactions.foldl (fun count entry => count + entry.2.length) 0

end Observers

end TurtleScript
