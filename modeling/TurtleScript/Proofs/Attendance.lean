import TurtleScript.Proofs.Budget
import TurtleScript.Proofs.Meaning
import TurtleScript.Proofs.Showings
import TurtleScript.Proofs.Snapshots
import TurtleScript.Proofs.Stopping

/-!
What a subscriber is shown of a run. A run notifies at two places, after a step and at its end, and
it can end in many ways; a subscriber sees each step once, with its number and the scene it left,
and then the end once, unless the run breaks. Other observers may stop the run, draw and fail, but
they do not reset: a reset notifies by itself.
-/
namespace TurtleScript

/-! ## The course of a run -/

namespace Engine

/-- The engine right after the step that the next resumption makes, before anyone is told. -/
def makes (e : Engine) (run : Run) : List Engine :=
  match e.verdict run with
  | .commits _ effect _ => [e.stepped run.index effect]
  | _ => []

/-- The engine at which the next resumption ends the run, before anyone is told. A run that breaks
has no such end. -/
def ends? (e : Engine) (run : Run) : Option Engine :=
  match e.verdict run with
  | .ends status hit => some (e.record status run.index hit).idle
  | _ => none

end Engine

namespace Operation

/-- The reactions that an operation brings with it. -/
def reactions : Operation → List Reaction
  | .subscribe _ reactions => reactions
  | _ => []

/-- An operation that neither takes up a suspended run nor notifies. While a run is suspended,
another one is refused. -/
def beside : Operation → Bool
  | .resume _ | .finish | .cancel | .reset _ => false
  | _ => true

/-- An operation that leaves the turtle alone. -/
def handsOff : Operation → Bool
  | .apply _ | .setColor _ | .setPenSize _ => false
  | _ => true

end Operation

/-- A run from its start on, resumed at any pace, with operations beside it and perhaps cancelled,
while an observer is subscribed once: the engine after each step that was made, the engine at its
end if it has come to one, the operations beside it, where it is, and the engine now. -/
inductive Proceeds (name : String) (origin : Engine) (commands : List Command)
    (obstacles : List Obstacle) (steps : List Command) :
    List Engine → Option Engine → List Operation → Progress → Engine → Prop
  | started (accepted : origin.accept commands = .ok steps)
    (subscribed : origin.observers.subscribed.count name = 1) :
    Proceeds name origin commands obstacles steps
      ((origin.begin steps).makes ⟨steps, 0, obstacles⟩)
      ((origin.begin steps).ends? ⟨steps, 0, obstacles⟩) []
      (origin.start commands obstacles).1 (origin.start commands obstacles).2
  | resumed {made : List Engine} {ended : Option Engine} {between : List Operation} {run : Run}
    {delay : Float} {e : Engine}
    (proceeds : Proceeds name origin commands obstacles steps made ended between
      (.suspended run delay) e)
    (subscribed : e.observers.subscribed.count name = 1) :
    Proceeds name origin commands obstacles steps (made ++ e.makes run) (e.ends? run) between
      (e.resume run).1 (e.resume run).2
  | interrupted {made : List Engine} {ended : Option Engine} {between : List Operation}
    {run : Run} {delay : Float} {e : Engine} {operation : Operation}
    (proceeds : Proceeds name origin commands obstacles steps made ended between
      (.suspended run delay) e)
    (beside : operation.beside = true)
    (calm : ∀ reaction ∈ operation.reactions, reaction.response.Calm) :
    Proceeds name origin commands obstacles steps made ended (between ++ [operation])
      (.suspended run delay) ((Session.mk e (some run)).perform operation).2.engine
  | cancelled {made : List Engine} {ended : Option Engine} {between : List Operation} {run : Run}
    {delay : Float} {e : Engine}
    (proceeds : Proceeds name origin commands obstacles steps made ended between
      (.suspended run delay) e)
    (subscribed : e.observers.subscribed.count name = 1) :
    Proceeds name origin commands obstacles steps made
      (some (e.record .stopped e.currentStep none).idle) between e.cancel.1 e.cancel.2

/-- The engine right after the step of a number, which has just taken effect. -/
structure Made (steps : List Command) (number : Nat) (moment : Engine) : Prop where
  step : moment.currentStep = number
  running : moment.running = true
  totalSteps : moment.totalSteps = steps.length
  committed : ∃ (c : Command) (before : Engine) (effect : Engine.Effect),
    steps[number]? = some c ∧ before.effect c = .ok effect ∧
      moment = before.stepped number effect

/-- The steps that were made are the first ones, and the engine has come from each of them. -/
structure MadeInOrder (steps : List Command) (made : List Engine) (e : Engine) : Prop where
  length_le : made.length ≤ steps.length
  each : ∀ number moment, made[number]? = some moment →
    Made steps number moment ∧ moment.Becomes e

private theorem getElem?_snoc {α : Type} {items : List α} {item other : α} {place : Nat}
    (found : (items ++ [item])[place]? = some other) :
    items[place]? = some other ∨ place = items.length ∧ other = item := by
  by_cases earlier : place < items.length
  · rw [List.getElem?_append_left earlier] at found
    exact .inl found
  · have inside := (List.getElem?_eq_some_iff.mp found).1
    have last : place = items.length := by
      rw [List.length_append, List.length_singleton] at inside
      omega
    subst last
    rw [List.getElem?_concat_length] at found
    exact .inr ⟨rfl, (Option.some.inj found).symm⟩

theorem MadeInOrder.becomes {steps : List Command} {made : List Engine} {e after : Engine}
    (inOrder : MadeInOrder steps made e) (becomes : e.Becomes after) :
    MadeInOrder steps made after := by
  refine ⟨inOrder.length_le, ?_⟩
  intro number moment found
  obtain ⟨step, since⟩ := inOrder.each number moment found
  exact ⟨step, since.trans becomes⟩

/-- A suspended run of which a subscriber has seen every step. -/
structure Attended (name : String) (origin : Engine) (obstacles : List Obstacle)
    (steps : List Command) (made : List Engine) (run : Run) (e : Engine) : Prop where
  rest : steps.drop made.length = run.rest
  index : run.index = made.length
  obstacles : run.obstacles = obstacles
  active : e.active = true
  totalSteps : e.totalSteps = steps.length
  calm : e.observers.Give Response.Calm
  shown : e.observers.shownTo name =
    origin.observers.shownTo name ++ made.map Engine.snapshot
  inOrder : MadeInOrder steps made e
  unbroken : ∀ moment ∈ made, moment.raiser? = none

/-- A run that has come to an end, of which the observers were told last. -/
structure Ended (name : String) (origin : Engine) (steps : List Command) (made : List Engine)
    (last e : Engine) : Prop where
  step : last.currentStep = -1
  running : last.running = false
  told : last.notify.2 = e
  calm : last.observers.Give Response.Calm
  subscribed : last.observers.subscribed.count name = 1
  shown : last.observers.shownTo name =
    origin.observers.shownTo name ++ made.map Engine.snapshot
  inOrder : MadeInOrder steps made e
  unbroken : ∀ moment ∈ made, moment.raiser? = none

/-- A run that broke. Its step could not be made and all that were made had been shown, or an
observer raised an error when it was shown the last one. -/
structure Broken (name : String) (origin : Engine) (steps : List Command) (made : List Engine)
    (error : EngineError) (e : Engine) : Prop where
  uncancelled : error ≠ .cancelled
  idle : e.active = false
  inOrder : MadeInOrder steps made e
  reason :
    (e.observers.shownTo name = origin.observers.shownTo name ++ made.map Engine.snapshot ∧
      ∀ moment ∈ made, moment.raiser? = none) ∨
    ∃ earlier moment raiser, made = earlier ++ [moment] ∧
      (∀ moment ∈ earlier, moment.raiser? = none) ∧ moment.raiser? = some raiser ∧
      e.observers.showings.getLast? = some (raiser, moment.snapshot) ∧
      (e.observers.shownTo name = origin.observers.shownTo name ++ made.map Engine.snapshot ∨
        raiser ≠ name ∧ e.observers.shownTo name =
          origin.observers.shownTo name ++ earlier.map Engine.snapshot)

/-- What is known of a run wherever it is. -/
inductive Seen (name : String) (origin : Engine) (obstacles : List Obstacle)
    (steps : List Command) (made : List Engine) : Option Engine → Progress → Engine → Prop
  | suspended {run : Run} {delay : Float} {e : Engine}
    (attended : Attended name origin obstacles steps made run e) :
    Seen name origin obstacles steps made none (.suspended run delay) e
  | returned {last e : Engine} {success : Bool} (atEnd : Ended name origin steps made last e)
    (done : last.notify.1 = .ok ()) :
    Seen name origin obstacles steps made (some last) (.returned success) e
  | cancelled {last e : Engine} (atEnd : Ended name origin steps made last e)
    (done : last.notify.1 = .ok ()) :
    Seen name origin obstacles steps made (some last) (.raised .cancelled) e
  | failed {last e : Engine} {error : EngineError} (atEnd : Ended name origin steps made last e)
    (failed : last.notify.1 = .error error) :
    Seen name origin obstacles steps made (some last) (.raised error) e
  | broken {error : EngineError} {e : Engine}
    (broken : Broken name origin steps made error e) :
    Seen name origin obstacles steps made none (.raised error) e

section Steps

variable {name : String} {origin : Engine} {obstacles : List Obstacle} {steps : List Command}
  {made : List Engine} {run : Run} {e : Engine}

private theorem Attended.begun (name : String) (obstacles : List Obstacle) (steps : List Command)
    (calm : origin.observers.Give Response.Calm) :
    Attended name origin obstacles steps [] ⟨steps, 0, obstacles⟩ (origin.begin steps) :=
  ⟨rfl, rfl, rfl, rfl, rfl, calm, by simp [Engine.begin], ⟨Nat.zero_le _, by simp⟩, by simp⟩

/-- The observers of a run that has come to an end are told of it. -/
private theorem Attended.ended (attended : Attended name origin obstacles steps made run e)
    (subscribed : e.observers.subscribed.count name = 1) (status : Status) (step : Int)
    (hit : Option Obstacle) :
    Ended name origin steps made (e.record status step hit).idle
      (e.record status step hit).idle.notify.2 := by
  have becomes : e.Becomes (e.record status step hit).idle :=
    .of_change (.aside ⟨rfl, rfl, rfl, rfl, rfl, rfl⟩)
  have told := (Engine.notify_evolves (e.record status step hit).idle).becomes
  exact ⟨rfl, rfl, rfl, attended.calm, subscribed, attended.shown,
    attended.inOrder.becomes (becomes.trans told), attended.unbroken⟩

private theorem finish_seen (attended : Attended name origin obstacles steps made run e)
    (subscribed : e.observers.subscribed.count name = 1) (status : Status) (step : Nat)
    (hit : Option Obstacle) :
    Seen name origin obstacles steps made (some (e.record status step hit).idle)
      (e.finish status step hit).1 (e.finish status step hit).2 := by
  have ended := attended.ended subscribed status step hit
  unfold Engine.finish
  cases told : (e.record status step hit).idle.notify with
  | mk answer after =>
    rw [told] at ended
    cases answer with
    | error error => exact .failed ended (by rw [told])
    | ok _ => exact .returned ended (by rw [told])

private theorem cancel_seen (attended : Attended name origin obstacles steps made run e)
    (subscribed : e.observers.subscribed.count name = 1) :
    Seen name origin obstacles steps made (some (e.record .stopped e.currentStep none).idle)
      e.cancel.1 e.cancel.2 := by
  have ended := attended.ended subscribed .stopped e.currentStep none
  unfold Engine.cancel
  cases told : (e.record .stopped e.currentStep none).idle.notify with
  | mk answer after =>
    rw [told] at ended
    cases answer with
    | error error => exact .failed ended (by rw [told])
    | ok _ => exact .cancelled ended (by rw [told])

private theorem breaks_seen (attended : Attended name origin obstacles steps made run e)
    {error : EngineError} (verdict : e.verdict run = .breaks error) :
    Broken name origin steps made error e.idle := by
  refine ⟨?_, rfl, attended.inOrder.becomes e.idle_evolves.becomes,
    .inl ⟨attended.shown, attended.unbroken⟩⟩
  rintro rfl
  obtain ⟨c, impossible | impossible | ⟨_, impossible⟩⟩ := Engine.verdict_breaks verdict
  all_goals cases impossible

/-- The command that is committed is the one after those of the steps that were made. -/
private theorem Attended.next (attended : Attended name origin obstacles steps made run e)
    {c : Command} {effect : Engine.Effect} {rest : List Command}
    (verdict : e.verdict run = .commits c effect rest) : steps[made.length]? = some c := by
  rw [← List.head?_drop, attended.rest, (Engine.verdict_commits verdict).1]
  rfl

/-- A step that is made has the next number, and the engine is that of its effect. -/
private theorem Attended.makes (attended : Attended name origin obstacles steps made run e)
    {c : Command} {effect : Engine.Effect} {rest : List Command}
    (verdict : e.verdict run = .commits c effect rest) :
    MadeInOrder steps (made ++ [e.stepped run.index effect]) (e.stepped run.index effect) := by
  obtain ⟨-, running, -, found, -⟩ := Engine.verdict_commits verdict
  have next := attended.next verdict
  have inside : made.length < steps.length := (List.getElem?_eq_some_iff.mp next).1
  have stepped := (Engine.stepped_evolves run.index found).becomes
  refine ⟨by rw [List.length_append]; exact inside, ?_⟩
  intro number moment member
  rcases getElem?_snoc member with earlier | ⟨rfl, rfl⟩
  · exact (attended.inOrder.becomes stepped).each number moment earlier
  · refine ⟨⟨?_, ?_, ?_, c, e, effect, next, found, by rw [attended.index]⟩, .refl _⟩
    · simp [Engine.stepped, attended.index]
    · simpa [Engine.stepped] using running
    · simpa [Engine.stepped] using attended.totalSteps

/-- Before a step is shown, the subscriber has seen those before it. -/
private theorem Attended.untold (attended : Attended name origin obstacles steps made run e)
    (effect : Engine.Effect) :
    (e.stepped run.index effect).observers.shownTo name =
      origin.observers.shownTo name ++ made.map Engine.snapshot := by
  rw [Engine.stepped_observers]
  exact attended.shown

/-- If everyone was told of a step, the run goes on and its subscriber has seen the step. -/
private theorem Attended.shows (attended : Attended name origin obstacles steps made run e)
    {c : Command} {effect : Engine.Effect} {rest : List Command} {after : Engine}
    (verdict : e.verdict run = .commits c effect rest)
    (calm : (e.stepped run.index effect).observers.Give Response.Calm)
    (once : (e.stepped run.index effect).observers.subscribed.count name = 1)
    (telling : (e.stepped run.index effect).notify = (.ok (), after)) :
    Attended name origin obstacles steps (made ++ [e.stepped run.index effect])
      ⟨rest, run.index + 1, run.obstacles⟩ after := by
  have evolves := (Engine.notify_evolves (e.stepped run.index effect)).becomes
  have steady := (Engine.notify_steady (e.stepped run.index effect)).1
  obtain ⟨told, notified⟩ := Engine.notify_told calm
  obtain ⟨shown, unraised⟩ := Engine.notify_shows calm once telling
  rw [telling] at evolves steady notified
  refine ⟨?_, ?_, attended.obstacles, ?_, ?_, notified.calm, ?_,
    (attended.makes verdict).becomes evolves, ?_⟩
  · rw [List.length_append, List.length_singleton, ← List.tail_drop, attended.rest,
      (Engine.verdict_commits verdict).1]
    rfl
  · simp [attended.index]
  · rw [steady.active]
    simpa [Engine.stepped] using attended.active
  · rw [steady.totalSteps]
    simpa [Engine.stepped] using attended.totalSteps
  · rw [shown, attended.untold]
    simp
  · intro moment member
    rcases List.mem_append.mp member with old | new
    · exact attended.unbroken moment old
    · rw [List.mem_singleton.mp new]
      exact unraised

/-- If an observer raised an error at a step, the run is over, and the step may have been shown. -/
private theorem Attended.breaks (attended : Attended name origin obstacles steps made run e)
    {c : Command} {effect : Engine.Effect} {rest : List Command} {error : EngineError}
    {after : Engine} (verdict : e.verdict run = .commits c effect rest)
    (calm : (e.stepped run.index effect).observers.Give Response.Calm)
    (once : (e.stepped run.index effect).observers.subscribed.count name = 1)
    (telling : (e.stepped run.index effect).notify = (.error error, after)) :
    Broken name origin steps (made ++ [e.stepped run.index effect]) error after.idle := by
  have evolves := (Engine.notify_evolves (e.stepped run.index effect)).becomes
  have uncancelled := Engine.notify_uncancelled (e.stepped run.index effect)
  rw [telling] at evolves uncancelled
  obtain ⟨raiser, raised, last, shown⟩ := Engine.notify_fails calm once telling
  have left := evolves.trans after.idle_evolves.becomes
  refine ⟨?_, rfl, (attended.makes verdict).becomes left,
    .inr ⟨made, _, raiser, rfl, attended.unbroken, raised, last, ?_⟩⟩
  · rintro rfl
    exact uncancelled rfl
  · rw [attended.untold] at shown
    rcases shown with shown | missed
    · refine .inl (shown.trans ?_)
      simp
    · exact .inr missed

/-- After a step is made, the run is suspended and its subscriber has seen the step, or an observer
has raised an error. -/
private theorem commits_seen (attended : Attended name origin obstacles steps made run e)
    (subscribed : e.observers.subscribed.count name = 1) {c : Command} {effect : Engine.Effect}
    {rest : List Command} (verdict : e.verdict run = .commits c effect rest) :
    Seen name origin obstacles steps (made ++ [e.stepped run.index effect]) none
      (e.carryOut run (.commits c effect rest)).1 (e.carryOut run (.commits c effect rest)).2 := by
  have calm : (e.stepped run.index effect).observers.Give Response.Calm := by
    rw [Engine.stepped_observers]
    exact attended.calm
  have once : (e.stepped run.index effect).observers.subscribed.count name = 1 := by
    rw [Engine.stepped_observers]
    exact subscribed
  simp only [Engine.carryOut]
  cases telling : (e.stepped run.index effect).notify with
  | mk answer after =>
    cases answer with
    | error error => exact .broken (attended.breaks verdict calm once telling)
    | ok _ => exact .suspended (attended.shows verdict calm once telling)

/-- A resumption keeps what is known of a run. -/
private theorem resume_seen (attended : Attended name origin obstacles steps made run e)
    (subscribed : e.observers.subscribed.count name = 1) :
    Seen name origin obstacles steps (made ++ e.makes run) (e.ends? run) (e.resume run).1
      (e.resume run).2 := by
  rw [Engine.resume_eq]
  unfold Engine.makes Engine.ends?
  cases verdict : e.verdict run with
  | ends status hit =>
    simp only [List.append_nil]
    exact finish_seen attended subscribed status run.index hit
  | breaks error =>
    simp only [List.append_nil]
    exact .broken (breaks_seen attended verdict)
  | commits c effect rest => exact commits_seen attended subscribed verdict

/-- What is done beside a suspended run does not take it up. -/
private theorem touches_beside (run : Run) {operation : Operation} (active : e.active = true)
    (beside : operation.beside = true) :
    e.Touches operation ((Session.mk e (some run)).perform operation).2.engine := by
  have refused (commands : List Command) : e.accept commands = .error .inProgress := by
    simp [Engine.accept, active]
  cases (Session.mk e (some run)).perform_does operation with
  | pursues pursued =>
    cases operation with
    | start commands | execute commands => simp [Session.pursuit?, refused commands] at pursued
    | resume | finish => cases beside
    | _ => cases pursued
  | cancels _ cancel =>
    subst cancel
    cases beside
  | touches _ _ touched => exact touched

/-- An operation beside a run shows nobody anything. -/
private theorem Engine.Touches.showings {after : Engine} {operation : Operation}
    (touched : e.Touches operation after) (beside : operation.beside = true) :
    after.observers.showings = e.observers.showings := by
  cases touched with
  | resume | finish | cancel | reset => cases beside
  | start | execute | refused | stop | setColor | setPenSize | setSpeed | subscribe => rfl
  | apply => simp
  | unsubscribe ticket => simp [Engine.withObservers]

/-- Beside a run, observers have only the responses that they had or that a subscription brings. -/
private theorem Engine.Touches.gives {allowed : Response → Prop} {after : Engine}
    {operation : Operation} (touched : e.Touches operation after)
    (beside : operation.beside = true) (give : e.observers.Give allowed)
    (more : ∀ reaction ∈ operation.reactions, allowed reaction.response) :
    after.observers.Give allowed := by
  cases touched with
  | resume | finish | cancel | reset => cases beside
  | start | execute | refused | stop | setColor | setPenSize | setSpeed => exact give
  | apply =>
    rw [Engine.commit_observers]
    exact give
  | subscribe name reactions => exact give.subscribe name more
  | unsubscribe ticket => exact give.unsubscribe ticket

private theorem interrupt_seen (attended : Attended name origin obstacles steps made run e)
    {operation : Operation} (beside : operation.beside = true)
    (calm : ∀ reaction ∈ operation.reactions, reaction.response.Calm) :
    Attended name origin obstacles steps made run
      ((Session.mk e (some run)).perform operation).2.engine := by
  have touched := touches_beside run attended.active beside
  have steady := touched.steady
  have shown := attended.shown
  refine ⟨attended.rest, attended.index, attended.obstacles, steady.active.trans attended.active,
    steady.totalSteps.trans attended.totalSteps, touched.gives beside attended.calm calm, ?_,
    attended.inOrder.becomes touched.evolves.becomes, attended.unbroken⟩
  rw [← shown]
  unfold Observers.shownTo
  rw [touched.showings beside]

end Steps

section Proceeds

variable {name : String} {origin e : Engine} {commands steps : List Command}
  {obstacles : List Obstacle} {made : List Engine} {ended : Option Engine}
  {between : List Operation} {progress : Progress}

/-- What is known of a run holds wherever it is. The induction is on its course so far. -/
theorem Proceeds.seen (calm : origin.observers.Give Response.Calm)
    (proceeds : Proceeds name origin commands obstacles steps made ended between progress e) :
    Seen name origin obstacles steps made ended progress e := by
  induction proceeds with
  | started accepted subscribed =>
    have resumed := resume_seen (.begun name obstacles steps calm) subscribed
    simpa [Engine.start, accepted] using resumed
  | resumed _ subscribed seen =>
    cases seen with
    | suspended attended => exact resume_seen attended subscribed
  | interrupted _ beside calm seen =>
    cases seen with
    | suspended attended => exact .suspended (interrupt_seen attended beside calm)
  | cancelled _ subscribed seen =>
    cases seen with
    | suspended attended => exact cancel_seen attended subscribed

theorem Seen.inOrder (seen : Seen name origin obstacles steps made ended progress e) :
    MadeInOrder steps made e := by
  cases seen with
  | suspended attended => exact attended.inOrder
  | returned atEnd | cancelled atEnd | failed atEnd => exact atEnd.inOrder
  | broken broken => exact broken.inOrder

/-- An end of which nobody fails to hear is shown to the subscriber. -/
theorem Ended.complete {last : Engine} (atEnd : Ended name origin steps made last e)
    (done : last.notify.1 = .ok ()) : e.observers.shownTo name =
      origin.observers.shownTo name ++ made.map Engine.snapshot ++ [last.snapshot] := by
  have told : last.notify = (.ok (), e) := Prod.ext done atEnd.told
  rw [(Engine.notify_shows atEnd.calm atEnd.subscribed told).1, atEnd.shown]

/-- A run that returns or is cancelled has shown its end to the subscriber. -/
theorem Seen.orderly (seen : Seen name origin obstacles steps made ended progress e)
    (orderly : (∃ success, progress = .returned success) ∨ progress = .raised .cancelled) :
    ∃ last, ended = some last ∧ e.observers.shownTo name =
      origin.observers.shownTo name ++ made.map Engine.snapshot ++ [last.snapshot] := by
  cases seen with
  | suspended => rcases orderly with ⟨_, impossible⟩ | impossible <;> cases impossible
  | returned atEnd done | cancelled atEnd done => exact ⟨_, rfl, atEnd.complete done⟩
  | failed atEnd failed =>
    rcases orderly with ⟨_, impossible⟩ | cancelled
    · cases impossible
    · cases cancelled
      exact (Engine.notify_uncancelled _ failed).elim
  | broken broken =>
    rcases orderly with ⟨_, impossible⟩ | cancelled
    · cases impossible
    · cases cancelled
      exact (broken.uncancelled rfl).elim

/-- At the end the engine is idle. Only an observer that raises an error then can keep the
subscriber from being shown it. -/
theorem Seen.at_end {last : Engine}
    (seen : Seen name origin obstacles steps made (some last) progress e) :
    last.snapshot.currentStep = -1 ∧ last.snapshot.running = false ∧ last.notify.2 = e ∧
    (e.observers.shownTo name =
        origin.observers.shownTo name ++ made.map Engine.snapshot ++ [last.snapshot] ∨
      ∃ raiser, last.raiser? = some raiser ∧ raiser ≠ name ∧
        e.observers.shownTo name =
          origin.observers.shownTo name ++ made.map Engine.snapshot) := by
  cases seen with
  | returned atEnd done | cancelled atEnd done =>
    exact ⟨atEnd.step, atEnd.running, atEnd.told, .inl (atEnd.complete done)⟩
  | failed atEnd failed =>
    obtain ⟨raiser, raised, -, shown | ⟨other, shown⟩⟩ :=
      Engine.notify_fails atEnd.calm atEnd.subscribed (Prod.ext failed atEnd.told)
    · exact ⟨atEnd.step, atEnd.running, atEnd.told, .inl (by rw [shown, atEnd.shown])⟩
    · refine ⟨atEnd.step, atEnd.running, atEnd.told, .inr ⟨raiser, raised, other, ?_⟩⟩
      rw [shown, atEnd.shown]

/-- A run that breaks shows no end, and at most its last step is missed. -/
theorem Seen.at_break {error : EngineError}
    (seen : Seen name origin obstacles steps made none (.raised error) e) :
    e.observers.shownTo name = origin.observers.shownTo name ++ made.map Engine.snapshot ∨
    ∃ earlier moment raiser, made = earlier ++ [moment] ∧ moment.raiser? = some raiser ∧
      raiser ≠ name ∧ e.observers.shownTo name =
        origin.observers.shownTo name ++ earlier.map Engine.snapshot := by
  cases seen with
  | broken broken =>
    rcases broken.reason with
      ⟨shown, -⟩ | ⟨earlier, moment, raiser, split, -, raised, -, shown | ⟨other, shown⟩⟩
    · exact .inl shown
    · exact .inl shown
    · exact .inr ⟨earlier, moment, raiser, split, raised, other, shown⟩

/-- Who raises an error at a step ends the run, and is the last to be shown anything of it. -/
theorem Seen.at_raiser (seen : Seen name origin obstacles steps made ended progress e) {i : Nat}
    {moment : Engine} {raiser : String} (found : made[i]? = some moment)
    (raised : moment.raiser? = some raiser) :
    made.length = i + 1 ∧ ended = none ∧ (∃ error, progress = .raised error) ∧
      e.active = false ∧
      e.observers.showings.getLast? = some (raiser, moment.snapshot) := by
  have absurd_of (unbroken : ∀ moment ∈ made, moment.raiser? = none) : False := by
    have none := unbroken moment (List.mem_of_getElem? found)
    rw [raised] at none
    cases none
  cases seen with
  | suspended attended => exact (absurd_of attended.unbroken).elim
  | returned atEnd | cancelled atEnd | failed atEnd => exact (absurd_of atEnd.unbroken).elim
  | broken broken =>
    rcases broken.reason with
      ⟨-, unbroken⟩ | ⟨earlier, last, other, rfl, unbroken, lastRaised, final, -⟩
    · exact (absurd_of unbroken).elim
    · rcases getElem?_snoc found with before | ⟨rfl, rfl⟩
      · rw [unbroken moment (List.mem_of_getElem? before)] at raised
        cases raised
      · rw [raised] at lastRaised
        cases lastRaised
        exact ⟨by simp, rfl, ⟨_, rfl⟩, broken.idle, final⟩

theorem Proceeds.flat
    (proceeds : Proceeds name origin commands obstacles steps made ended between progress e) :
    Command.flattenAll commands = .ok steps := by
  induction proceeds with
  | started accepted => exact Engine.flat_of_accept accepted
  | resumed _ _ flat | interrupted _ _ _ flat | cancelled _ _ flat => exact flat

end Proceeds

/-! ## Runs that are left alone -/

/-- Whatever becomes of an engine, its canvas and its colors stay. -/
theorem Engine.Becomes.stage {a b : Engine} (becomes : a.Becomes b) (obstacles : List Obstacle) :
    b.stage obstacles = a.stage obstacles := by
  refine becomes.lift (fun a b => b.stage obstacles = a.stage obstacles) (fun _ => rfl)
    (fun first second => second.trans first) ?_
  intro a b change
  cases change with
  | effect => simp [Engine.stage]
  | restart | setColor | setPenSize => rfl
  | aside same => simp [Engine.stage, same.width, same.height, same.palette]

theorem Engine.Untouched.scene {a b : Engine} (same : a.Untouched b) : b.scene = a.scene := by
  simp [Engine.scene, Engine.drawing, same.turtle, same.drawings]

/-- Each step left the scene of the commands up to it. -/
def Followed (origin : Engine) (obstacles : List Obstacle) (steps : List Command)
    (made : List Engine) : Prop :=
  ∀ number moment, made[number]? = some moment →
    (origin.stage obstacles).actAll (steps.take (number + 1)) origin.scene =
      ⟨Engine.scene moment, number + 1, .through⟩

/-- The engine is where the steps that were made lead. -/
structure OnCourse (origin : Engine) (obstacles : List Obstacle) (steps : List Command)
    (made : List Engine) (e : Engine) : Prop where
  stage : e.stage obstacles = origin.stage obstacles
  course : (origin.stage obstacles).actAll (steps.take made.length) origin.scene =
    ⟨e.scene, made.length, .through⟩
  followed : Followed origin obstacles steps made

/-- What is known of a run with which nobody interferes, wherever it is. -/
inductive Undisturbed (origin : Engine) (obstacles : List Obstacle) (steps : List Command)
    (made : List Engine) : Option Engine → Progress → Engine → Prop
  | suspended {run : Run} {delay : Float} {e : Engine}
    (onCourse : OnCourse origin obstacles steps made e)
    (harmless : e.observers.Give Response.Harmless) :
    Undisturbed origin obstacles steps made none (.suspended run delay) e
  | ended {last e : Engine} {progress : Progress}
    (onCourse : OnCourse origin obstacles steps made last) (scene : e.scene = last.scene) :
    Undisturbed origin obstacles steps made (some last) progress e
  | broken {error : EngineError} {e : Engine}
    (followed : Followed origin obstacles steps made) :
    Undisturbed origin obstacles steps made none (.raised error) e

section Undisturbed

variable {name : String} {origin : Engine} {obstacles : List Obstacle} {steps : List Command}
  {made : List Engine} {run : Run} {progress : Progress} {e : Engine}

/-- A step that is made does what its command does to the scene. -/
private theorem OnCourse.makes (onCourse : OnCourse origin obstacles steps made e)
    (attended : Attended name origin obstacles steps made run e) {c : Command}
    {effect : Engine.Effect} {rest : List Command}
    (verdict : e.verdict run = .commits c effect rest) :
    OnCourse origin obstacles steps (made ++ [e.stepped run.index effect])
      (e.stepped run.index effect) := by
  have found := (Engine.verdict_commits verdict).2.2.2.1
  have course : (origin.stage obstacles).actAll (steps.take (made.length + 1)) origin.scene =
      ⟨(e.stepped run.index effect).scene, made.length + 1, .through⟩ := by
    have acted := Engine.act_of_commits verdict
    rw [attended.obstacles, onCourse.stage] at acted
    rw [List.take_add_one, attended.next verdict, Option.toList_some]
    exact Stage.actAll_snoc _ onCourse.course acted
  refine ⟨?_, ?_, ?_⟩
  · rw [(Engine.stepped_evolves run.index found).becomes.stage, onCourse.stage]
  · rw [List.length_append, List.length_singleton]
    exact course
  · intro number moment member
    rcases getElem?_snoc member with earlier | ⟨rfl, rfl⟩
    · exact onCourse.followed number moment earlier
    · exact course

/-- An end that harmless observers are told of leaves the scene as it is. -/
private theorem OnCourse.ended (onCourse : OnCourse origin obstacles steps made e)
    (harmless : e.observers.Give Response.Harmless) (status : Status) (step : Int)
    (hit : Option Obstacle) :
    Undisturbed origin obstacles steps made (some (e.record status step hit).idle) progress
      (e.record status step hit).idle.notify.2 := by
  have quiet : (e.record status step hit).idle.observers.Give Response.Harmless := harmless
  exact .ended ⟨onCourse.stage, onCourse.course, onCourse.followed⟩
    (Engine.notify_untouched quiet).1.scene

private theorem resume_undisturbed (onCourse : OnCourse origin obstacles steps made e)
    (harmless : e.observers.Give Response.Harmless)
    (attended : Attended name origin obstacles steps made run e) :
    Undisturbed origin obstacles steps (made ++ e.makes run) (e.ends? run) (e.resume run).1
      (e.resume run).2 := by
  rw [Engine.resume_eq]
  unfold Engine.makes Engine.ends?
  cases verdict : e.verdict run with
  | ends status hit =>
    simp only [List.append_nil, Engine.carryOut, Engine.finish_engine]
    exact onCourse.ended harmless status run.index hit
  | breaks error =>
    simp only [List.append_nil]
    exact .broken onCourse.followed
  | commits c effect rest =>
    have made := onCourse.makes attended verdict
    have quiet : (e.stepped run.index effect).observers.Give Response.Harmless := by
      rw [Engine.stepped_observers]
      exact harmless
    obtain ⟨untouched, gives⟩ := Engine.notify_untouched quiet
    have evolves := (Engine.notify_evolves (e.stepped run.index effect)).becomes
    simp only [Engine.carryOut]
    cases told : (e.stepped run.index effect).notify with
    | mk answer after =>
      rw [told] at untouched gives evolves
      cases answer with
      | error error => exact .broken made.followed
      | ok _ =>
        refine .suspended ⟨?_, ?_, made.followed⟩ gives
        · rw [evolves.stage, made.stage]
        · rw [made.course, untouched.scene]

/-- An operation that leaves the turtle alone leaves the scene as it is. -/
private theorem Engine.Touches.scene {after : Engine} {operation : Operation}
    (touched : e.Touches operation after) (beside : operation.beside = true)
    (handsOff : operation.handsOff = true) : after.scene = e.scene := by
  cases touched with
  | resume | finish | cancel | reset => cases beside
  | apply | refused | setColor | setPenSize => cases handsOff
  | start | execute | stop | setSpeed | subscribe | unsubscribe => rfl

end Undisturbed

section Proceeds

variable {name : String} {origin e : Engine} {commands steps : List Command}
  {obstacles : List Obstacle} {made : List Engine} {ended : Option Engine}
  {between : List Operation} {progress : Progress}

/-- With harmless observers and operations that leave the turtle alone, the scene is that of the
commands alone. -/
theorem Proceeds.undisturbed (harmless : origin.observers.Give Response.Harmless)
    (proceeds : Proceeds name origin commands obstacles steps made ended between progress e)
    (handsOff : ∀ operation ∈ between, operation.handsOff = true ∧
      ∀ reaction ∈ operation.reactions, reaction.response.Harmless) :
    Undisturbed origin obstacles steps made ended progress e := by
  have calm : origin.observers.Give Response.Calm :=
    fun entry present reaction inside => (harmless entry present reaction inside).calm
  induction proceeds with
  | started accepted subscribed =>
    have attended := Attended.begun name obstacles steps calm
    have onCourse : OnCourse origin obstacles steps [] (origin.begin steps) :=
      ⟨rfl, rfl, by simp [Followed]⟩
    have resumed := resume_undisturbed onCourse harmless attended
    simpa [Engine.start, accepted] using resumed
  | resumed proceeds _ ih =>
    cases proceeds.seen calm with
    | suspended attended =>
      cases ih handsOff with
      | suspended onCourse harmless => exact resume_undisturbed onCourse harmless attended
  | @interrupted _ _ _ run _ _ operation proceeds beside _ ih =>
    obtain ⟨apart, more⟩ := handsOff operation (by simp)
    cases proceeds.seen calm with
    | suspended attended =>
      cases ih fun other member => handsOff other (by simp [member]) with
      | suspended onCourse harmless =>
        have touched := touches_beside run attended.active beside
        refine .suspended ⟨?_, ?_, onCourse.followed⟩ (touched.gives beside harmless more)
        · rw [touched.evolves.becomes.stage, onCourse.stage]
        · rw [onCourse.course, touched.scene beside apart]
  | cancelled proceeds _ ih =>
    cases proceeds.seen calm with
    | suspended =>
      cases ih handsOff with
      | suspended onCourse harmless =>
        rw [Engine.cancel_engine]
        exact onCourse.ended harmless .stopped _ none

theorem Undisturbed.followed
    (undisturbed : Undisturbed origin obstacles steps made ended progress e) :
    Followed origin obstacles steps made := by
  cases undisturbed with
  | suspended onCourse | ended onCourse => exact onCourse.followed
  | broken followed => exact followed

end Proceeds

/-! ## A snapshot for each step and one at the end -/

/-- A run from its start on, while an observer is subscribed once and nobody resets; others may
stop it, draw, subscribe and fail. Each step that was made left an engine with its number and the
count of all steps, whose snapshot still shows its drawing.

If the run returns or is cancelled, the subscriber has been shown each of these snapshots and then
that of the end, where no step is left to be at. If it breaks, there is no last call: all steps
have been shown, or all but the one at which another observer raised an error. Whoever raises an
error at a step is the last to be shown anything of the run. An end may also be missed where another
observer raises an error at it.

If nobody touches the turtle beside the run, each snapshot has the scene of the first commands, and
the last one has the final scene. -/
theorem subscriber_sees_each_step (name : String) (origin : Engine) (commands : List Command)
    (obstacles : List Obstacle) (calm : origin.observers.Give Response.Calm)
    (steps : List Command) (made : List Engine) (ended : Option Engine)
    (between : List Operation) (progress : Progress) (e : Engine)
    (proceeds : Proceeds name origin commands obstacles steps made ended between progress e) :
    let before := origin.observers.shownTo name
    let shown := e.observers.shownTo name
    Command.flattenAll commands = .ok steps ∧ made.length ≤ steps.length ∧
    (∀ (i : Nat) (moment : Engine), made[i]? = some moment →
      moment.snapshot.currentStep = i ∧ moment.snapshot.running = true ∧
      moment.snapshot.totalSteps = steps.length ∧ moment.snapshot.turtle = moment.turtle ∧
      moment.snapshot.drawing.items e.drawings = moment.drawing ∧
      ∃ (c : Command) (prior : Engine) (effect : Engine.Effect), steps[i]? = some c ∧
        prior.effect c = .ok effect ∧ moment = prior.stepped i effect) ∧
    ((∃ success, progress = .returned success) ∨ progress = .raised .cancelled →
      ∃ last, ended = some last ∧ shown = before ++ made.map Engine.snapshot ++ [last.snapshot]) ∧
    (∀ last, ended = some last →
      last.snapshot.currentStep = -1 ∧ last.snapshot.running = false ∧
      last.snapshot.drawing.items e.drawings = last.drawing ∧ last.notify.2 = e ∧
      (shown = before ++ made.map Engine.snapshot ++ [last.snapshot] ∨
        ∃ raiser, last.raiser? = some raiser ∧ raiser ≠ name ∧
          shown = before ++ made.map Engine.snapshot)) ∧
    (∀ error, progress = .raised error → ended = none →
      shown = before ++ made.map Engine.snapshot ∨
      ∃ earlier moment raiser, made = earlier ++ [moment] ∧ moment.raiser? = some raiser ∧
        raiser ≠ name ∧ shown = before ++ earlier.map Engine.snapshot) ∧
    (∀ (i : Nat) (moment : Engine) (raiser : String), made[i]? = some moment →
      moment.raiser? = some raiser →
      made.length = i + 1 ∧ ended = none ∧ (∃ error, progress = .raised error) ∧
      e.active = false ∧ e.observers.showings.getLast? = some (raiser, moment.snapshot)) ∧
    (origin.observers.Give Response.Harmless →
      (∀ operation ∈ between, operation.handsOff = true ∧
        ∀ reaction ∈ operation.reactions, reaction.response.Harmless) →
      (∀ (i : Nat) (moment : Engine), made[i]? = some moment →
        (origin.stage obstacles).actAll (steps.take (i + 1)) origin.scene =
          ⟨moment.scene, i + 1, .through⟩) ∧
      ∀ last, ended = some last → last.turtle = e.turtle ∧ last.drawing = e.drawing) := by
  intro before shown
  have seen := proceeds.seen calm
  refine ⟨proceeds.flat, seen.inOrder.length_le, ?_, ?_, ?_, ?_, ?_, ?_⟩
  · intro i moment found
    obtain ⟨step, becomes⟩ := seen.inOrder.each i moment found
    exact ⟨step.step, step.running, step.totalSteps, rfl, becomes.shows.items, step.committed⟩
  · exact seen.orderly
  · rintro last rfl
    obtain ⟨step, running, told, calls⟩ := seen.at_end
    have becomes : last.Becomes e := told ▸ last.notify_evolves.becomes
    exact ⟨step, running, becomes.shows.items, told, calls⟩
  · rintro error rfl rfl
    exact seen.at_break
  · intro i moment raiser found raised
    exact seen.at_raiser found raised
  · intro harmless handsOff
    have undisturbed := proceeds.undisturbed harmless handsOff
    refine ⟨undisturbed.followed, ?_⟩
    rintro last rfl
    cases undisturbed with
    | ended _ scene => exact ⟨(congrArg Scene.turtle scene).symm, (congrArg Scene.log scene).symm⟩

/-- A viewer that only looks, and an observer who asks for a stop at the second step. -/
private def audience : Engine :=
  (Engine.placed ⟨40.0, 30.0, 0.0⟩).withObservers fun o =>
    (o.subscribe "viewer" []).subscribe "pacer" [⟨1, .stop⟩]

private def lifts : List Command :=
  [⟨.penUp, none, [], 1, 1⟩, ⟨.penDown, none, [], 1, 4⟩, ⟨.penUp, none, [], 1, 7⟩]

/-- A run that is stopped after two of its three steps: the viewer is shown both and the end. -/
theorem subscriber_sees_each_step_until_stopped :
    ∃ made last e, Proceeds "viewer" audience lifts [] lifts made (some last)
        [.setSpeed (.whole 50)] (.returned true) e ∧
      made.length = 2 ∧
      e.observers.shownTo "viewer" =
        audience.observers.shownTo "viewer" ++ made.map Engine.snapshot ++ [last.snapshot] := by
  have calm : audience.observers.Give Response.Calm := by
    intro entry member reaction inside
    rcases List.mem_cons.mp member with rfl | further
    · cases inside
    · cases List.mem_singleton.mp further
      cases List.mem_singleton.mp inside
      exact trivial
  have accepted : audience.accept lifts = .ok lifts := rfl
  have first : Proceeds "viewer" audience lifts [] lifts _ none [] (.suspended _ _) _ :=
    .started accepted rfl
  have faster := first.interrupted (show (Operation.setSpeed (.whole 50)).beside = true from rfl)
    (by simp [Operation.reactions])
  have second : Proceeds "viewer" audience lifts [] lifts _ none _ (.suspended _ _) _ :=
    faster.resumed rfl
  have proceeds : Proceeds "viewer" audience lifts [] lifts _ (some _) _ (.returned true) _ :=
    second.resumed rfl
  obtain ⟨-, -, -, orderly, -⟩ :=
    subscriber_sees_each_step _ _ _ _ calm _ _ _ _ _ _ proceeds
  obtain ⟨last, atEnd, shown⟩ := orderly (.inl ⟨true, rfl⟩)
  rw [atEnd] at proceeds
  exact ⟨_, last, _, proceeds, rfl, shown⟩

end TurtleScript
