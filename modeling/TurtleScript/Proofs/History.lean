import TurtleScript.Proofs.Lifecycle

/-!
What operations do, said once. Four operations work on a run, and each comes to the same: a run is
resumed on an engine, and again as long as it is suspended and may be. Cancelling ends a run without
resuming it, and the others touch the engine beside it. Every resumption is kept with the engine and
the run that it found, so that a fact about whole sessions can speak of the steps on the way.
-/
namespace TurtleScript

/-! ## Resumptions -/

/-- A run that is resumed, and the engine that it is resumed on. -/
structure Resumption where
  engine : Engine
  run : Run

namespace Resumption

/-- What the resumption comes to. -/
def verdict (x : Resumption) : Verdict := x.engine.verdict x.run

/-- The engine that the resumption leaves. -/
def after (x : Resumption) : Engine := (x.engine.resume x.run).2

end Resumption

namespace Engine

/-- Resumes a run, and at most so many times more. -/
def pursue : (more : Nat) → Engine → Run → Progress × Engine
  | 0, e, run => e.resume run
  | more + 1, e, run =>
    match e.resume run with
    | (.suspended next _, after) => pursue more after next
    | ended => ended

/-- The resumptions that are made then. -/
def resumptions : (more : Nat) → Engine → Run → List Resumption
  | 0, e, run => [⟨e, run⟩]
  | more + 1, e, run =>
    ⟨e, run⟩ ::
      match e.resume run with
      | (.suspended next _, after) => resumptions more after next
      | _ => []

/-- Carrying a run on from its first resumption is to pursue it. -/
theorem drive_pursues (more : Nat) (e : Engine) (run : Run) (sleeps : Nat)
    (delay : Option Float) :
    (drive more ⟨(e.resume run).1, sleeps, delay⟩ (e.resume run).2).2 = (e.pursue more run).2 := by
  induction more generalizing e run sleeps delay with
  | zero =>
    simp only [pursue]
    cases resumed : e.resume run with
    | mk progress after => cases progress <;> rfl
  | succ more ih =>
    simp only [pursue]
    cases resumed : e.resume run with
    | mk progress after =>
      cases progress with
      | suspended next wait => exact ih after next (sleeps + 1) (some wait)
      | returned | raised => rfl

/-- What an operation makes of an engine when it neither pursues a run nor cancels one. -/
inductive Touches (e : Engine) : Operation → Engine → Prop
  | start (commands : List Command) (obstacles : List Obstacle) :
    Touches e (.start commands obstacles) e
  | execute (commands : List Command) (obstacles : List Obstacle) :
    Touches e (.execute commands obstacles) e
  | resume (count : Nat) : Touches e (.resume count) e
  | finish : Touches e .finish e
  | cancel : Touches e .cancel e
  | stop : Touches e .stop e.stop
  | reset (start : Option Pose) : Touches e (.reset start) (e.reset start).2
  | refused (c : Command) : Touches e (.apply c) e
  | apply {c : Command} {effect : Effect} (found : e.effect c = .ok effect) :
    Touches e (.apply c) (e.commit effect)
  | setColor (color : String) : Touches e (.setColor color) (e.setColor color)
  | setPenSize (size : Float) : Touches e (.setPenSize size) (e.setPenSize size)
  | setSpeed (given : Number) (speed : Int) : Touches e (.setSpeed given) { e with speed }
  | subscribe (name : String) (reactions : List Reaction) :
    Touches e (.subscribe name reactions) (e.withObservers (·.subscribe name reactions))
  | unsubscribe (ticket : Nat) :
    Touches e (.unsubscribe ticket) (e.withObservers (·.unsubscribe ticket))

end Engine

/-! ## Operations -/

namespace Session

/-- The run that an operation begins or takes up, on the engine for it, and how often the run may be
resumed after the first time. -/
def pursuit? (s : Session) : Operation → Option (Resumption × Nat)
  | .start commands obstacles =>
    match s.engine.accept commands with
    | .error _ => none
    | .ok steps => some (⟨s.engine.begin steps, ⟨steps, 0, obstacles⟩⟩, 0)
  | .execute commands obstacles =>
    match s.engine.accept commands with
    | .error _ => none
    | .ok steps => some (⟨s.engine.begin steps, ⟨steps, 0, obstacles⟩⟩, steps.length)
  | .resume (more + 1) => s.run.map fun run => (⟨s.engine, run⟩, more)
  | .finish => s.run.map fun run => (⟨s.engine, run⟩, run.rest.length)
  | _ => none

/-- The resumptions that an operation makes. -/
def resumptions (s : Session) (operation : Operation) : List Resumption :=
  match s.pursuit? operation with
  | none => []
  | some (first, more) => first.engine.resumptions more first.run

/-- The resumptions that operations in order make. -/
def history (s : Session) : List Operation → List Resumption
  | [] => []
  | operation :: rest => s.resumptions operation ++ (s.perform operation).2.history rest

/-- What an operation does: it pursues a run, or cancels the one that is suspended, or touches the
engine beside it. -/
inductive Does (s : Session) (operation : Operation) : Prop
  | pursues {first : Resumption} {more : Nat} (pursued : s.pursuit? operation = some (first, more))
    (left : (s.perform operation).2.engine = (first.engine.pursue more first.run).2)
  | cancels {run : Run} (suspended : s.run = some run) (cancel : operation = .cancel)
    (left : (s.perform operation).2 = ⟨s.engine.cancel.2, none⟩)
  | touches (unpursued : s.pursuit? operation = none)
    (uncancelled : operation = .cancel → s.run = none)
    (touched : s.engine.Touches operation (s.perform operation).2.engine)
    (left : (s.perform operation).2.run = s.run)

section Operations

/-- A run that is pursued has just begun, or was suspended on the engine. -/
theorem pursuit_cases {s : Session} {operation : Operation} {first : Resumption} {more : Nat}
    (pursued : s.pursuit? operation = some (first, more)) :
    (∃ commands steps obstacles, s.engine.accept commands = .ok steps ∧
      first = ⟨s.engine.begin steps, ⟨steps, 0, obstacles⟩⟩) ∨
    ∃ run, s.run = some run ∧ first = ⟨s.engine, run⟩ := by
  cases operation with
  | start commands obstacles | execute commands obstacles =>
    simp only [pursuit?] at pursued
    split at pursued
    · cases pursued
    · rename_i steps accepted
      cases pursued
      exact .inl ⟨commands, steps, obstacles, accepted, rfl⟩
  | resume count =>
    cases count with
    | zero => cases pursued
    | succ more =>
      obtain ⟨run, left, given⟩ := Option.map_eq_some_iff.mp pursued
      cases given
      exact .inr ⟨run, left, rfl⟩
  | finish =>
    obtain ⟨run, left, given⟩ := Option.map_eq_some_iff.mp pursued
    cases given
    exact .inr ⟨run, left, rfl⟩
  | _ => cases pursued

theorem started_engine (s : Session) (result : Stretch × Engine) :
    (s.started result).2.engine = result.2 := by
  unfold started
  split <;> rfl

variable (s : Session)

private theorem does_nothing {operation : Operation} (unpursued : s.pursuit? operation = none)
    (uncancelled : operation = .cancel → s.run = none)
    (still : s.engine.Touches operation s.engine) (unchanged : (s.perform operation).2 = s) :
    s.Does operation := by
  refine .touches unpursued uncancelled ?_ ?_
  · rw [unchanged]
    exact still
  · rw [unchanged]

private theorem does_pursue {operation : Operation} {first : Resumption} {more : Nat}
    (pursued : s.pursuit? operation = some (first, more))
    (driven : (s.perform operation).2.engine =
      (Engine.drive more ⟨(first.engine.resume first.run).1, 0, none⟩ first.after).2) :
    s.Does operation :=
  .pursues pursued (driven.trans (Engine.drive_pursues more first.engine first.run 0 none))

private theorem start_does (commands : List Command) (obstacles : List Obstacle) :
    s.Does (.start commands obstacles) := by
  cases accepted : s.engine.accept commands with
  | error error =>
    refine s.does_nothing (by simp [pursuit?, accepted]) Operation.noConfusion
      (.start commands obstacles) ?_
    simp only [perform, Engine.startTimes_refused obstacles 0 accepted, started_refused]
  | ok steps =>
    have pursued : s.pursuit? (.start commands obstacles) =
        some (⟨s.engine.begin steps, ⟨steps, 0, obstacles⟩⟩, 0) := by
      simp only [pursuit?, accepted]
    refine s.does_pursue pursued ?_
    simp [perform, started_engine, Engine.startTimes, Engine.start, accepted, Resumption.after]

private theorem execute_does (commands : List Command) (obstacles : List Obstacle) :
    s.Does (.execute commands obstacles) := by
  cases accepted : s.engine.accept commands with
  | error error =>
    refine s.does_nothing (by simp [pursuit?, accepted]) Operation.noConfusion
      (.execute commands obstacles) ?_
    simp only [perform, Engine.execute_refused obstacles accepted, started_refused]
  | ok steps =>
    have pursued : s.pursuit? (.execute commands obstacles) =
        some (⟨s.engine.begin steps, ⟨steps, 0, obstacles⟩⟩, steps.length) := by
      simp only [pursuit?, accepted]
    refine s.does_pursue pursued ?_
    simp [perform, started_engine, Engine.execute_accepted obstacles accepted, Engine.startTimes,
      Engine.start, accepted, Resumption.after]

private theorem resume_does (count : Nat) : s.Does (.resume count) := by
  cases left : s.run with
  | none =>
    exact s.does_nothing (by cases count <;> simp [pursuit?, left]) Operation.noConfusion
      (.resume count) (by simp [perform, left])
  | some run =>
    cases count with
    | zero =>
      refine s.does_nothing rfl Operation.noConfusion (.resume 0) ?_
      obtain ⟨engine, _⟩ := s
      cases left
      rfl
    | succ more =>
      have pursued : s.pursuit? (.resume (more + 1)) = some (⟨s.engine, run⟩, more) := by
        simp only [pursuit?, left, Option.map_some]
      refine s.does_pursue pursued ?_
      simp [perform, left, drove, Engine.resumeTimes, Resumption.after]

private theorem finish_does : s.Does .finish := by
  cases left : s.run with
  | none =>
    exact s.does_nothing (by simp [pursuit?, left]) Operation.noConfusion .finish
      (by simp [perform, left])
  | some run =>
    have pursued : s.pursuit? .finish = some (⟨s.engine, run⟩, run.rest.length) := by
      simp only [pursuit?, left, Option.map_some]
    refine s.does_pursue pursued ?_
    simp [perform, left, drove, Engine.resumeToEnd, Engine.resumeTimes, Resumption.after]

private theorem cancel_does : s.Does .cancel := by
  cases left : s.run with
  | none => exact s.does_nothing rfl (fun _ => left) .cancel (by simp [perform, left])
  | some run =>
    obtain ⟨ended, -⟩ := Engine.cancel_idle s.engine 0 none
    refine .cancels left rfl ?_
    simp only [perform, left, drove]
    rw [ended]

theorem perform_does (operation : Operation) : s.Does operation := by
  cases operation with
  | start commands obstacles => exact s.start_does commands obstacles
  | execute commands obstacles => exact s.execute_does commands obstacles
  | resume count => exact s.resume_does count
  | finish => exact s.finish_does
  | cancel => exact s.cancel_does
  | stop => exact .touches rfl Operation.noConfusion .stop rfl
  | reset start =>
    have told : (s.perform (.reset start)).2 = { s with engine := (s.engine.reset start).2 } := by
      simp only [perform, told]
      split <;> (rename_i done; rw [done])
    refine .touches rfl Operation.noConfusion ?_ ?_ <;> rw [told]
    exact .reset start
  | apply command =>
    cases applied : s.engine.apply command with
    | error error =>
      refine .touches rfl Operation.noConfusion ?_ ?_ <;> simp only [perform, applied]
      exact .refused command
    | ok result =>
      obtain ⟨success, after⟩ := result
      obtain ⟨effect, found, -, rfl⟩ := Engine.apply_eq_ok applied
      refine .touches rfl Operation.noConfusion ?_ ?_ <;> simp only [perform, applied]
      exact .apply found
  | setColor color => exact .touches rfl Operation.noConfusion (.setColor color) rfl
  | setPenSize size => exact .touches rfl Operation.noConfusion (.setPenSize size) rfl
  | setSpeed speed =>
    cases clamped : clampSpeed speed with
    | error fault =>
      refine .touches rfl Operation.noConfusion ?_ ?_ <;>
        simp only [perform, Engine.setSpeed, clamped, Except.map]
      exact .setSpeed speed s.engine.speed
    | ok whole =>
      refine .touches rfl Operation.noConfusion ?_ ?_ <;>
        simp only [perform, Engine.setSpeed, clamped, Except.map]
      exact .setSpeed speed whole
  | subscribe name reactions =>
    exact .touches rfl Operation.noConfusion (.subscribe name reactions) rfl
  | unsubscribe ticket => exact .touches rfl Operation.noConfusion (.unsubscribe ticket) rfl

end Operations

end Session

end TurtleScript
