import TurtleScript.Engine.Session
import TurtleScript.Proofs.LongNumbers
import TurtleScript.Proofs.Resumption

/-!
The life of an engine under operations in any order. The flags of an engine say what is true of the
run that may be suspended on it, whatever came before: operations of others while it was suspended,
observers that act or fail, runs that ended in any way. What a run has committed is no part of a
session, so it is recorded beside it.
-/
namespace TurtleScript

/-! ## The record of a run -/

/-- What there is to say about the run that was started last. -/
structure Record where
  /-- Its steps. -/
  program : List Command
  /-- The commands that it has committed, in order. -/
  committed : List Command
  /-- The result that stood when it was started. -/
  before : Option RunResult

namespace Record

/-- No run has been started. -/
def blank : Record := ⟨[], [], none⟩

/-- More commands have been committed. -/
def add (r : Record) (more : List Command) : Record :=
  { r with committed := r.committed ++ more }

variable (r : Record) (more : List Command)

@[simp] theorem add_program : (r.add more).program = r.program := rfl

@[simp] theorem add_committed : (r.add more).committed = r.committed ++ more := rfl

@[simp] theorem add_before : (r.add more).before = r.before := rfl

@[simp] theorem add_nil : r.add [] = r := by simp [add]

theorem add_add (first second : List Command) :
    (r.add first).add second = r.add (first ++ second) := by
  simp [add]

end Record

/-- The commands that a run commits when it is resumed at most so many times. -/
def Engine.committedIn : (count : Nat) → Engine → Run → List Command
  | 0, _, _ => []
  | more + 1, e, run =>
    e.committed run ++
      match e.resume run with
      | (.suspended next _, after) => committedIn more after next
      | _ => []

namespace Record

/-- The record of a run from its start, when it is resumed at most so many times in all. -/
def ofStart (e : Engine) (steps : List Command) (obstacles : List Obstacle) (count : Nat) :
    Record :=
  ⟨steps, (e.begin steps).committedIn count ⟨steps, 0, obstacles⟩, e.lastResult⟩

/-- The record after one more operation. A program that is not accepted starts no run. -/
def next (r : Record) (s : Session) : Operation → Record
  | .start commands obstacles =>
    match s.engine.accept commands with
    | .error _ => r
    | .ok steps => ofStart s.engine steps obstacles 1
  | .execute commands obstacles =>
    match s.engine.accept commands with
    | .error _ => r
    | .ok steps => ofStart s.engine steps obstacles (steps.length + 1)
  | .resume count =>
    match s.run with
    | none => r
    | some run => r.add (s.engine.committedIn count run)
  | .finish =>
    match s.run with
    | none => r
    | some run => r.add (s.engine.committedIn (run.rest.length + 1) run)
  | _ => r

/-- The record after operations in order. -/
def nextAll (r : Record) (s : Session) : List Operation → Record
  | [] => r
  | operation :: rest => (r.next s operation).nextAll (s.perform operation).2 rest

end Record

/-! ## What the flags say -/

namespace Engine

/-- No run is under way, and all flags say so. -/
structure Idle (e : Engine) : Prop where
  active : e.active = false
  running : e.running = false
  currentStep : e.currentStep = -1

/-- The engine is in a run that has come as far as its record says, and can be resumed. -/
structure Underway (r : Record) (run : Run) (e : Engine) : Prop where
  active : e.active = true
  totalSteps : e.totalSteps = r.program.length
  program : r.program = r.committed ++ run.rest
  index : run.index = r.committed.length
  lastResult : e.lastResult = r.before

/-- A run is suspended on the engine. It is at the last command that was committed; only a reset
makes it leave that step, and then it does not go on. -/
structure Suspended (r : Record) (run : Run) (e : Engine) : Prop extends Underway r run e where
  begun : r.committed ≠ []
  currentStep : e.currentStep = -1 ∨ e.currentStep + 1 = r.committed.length
  running : e.running = true → e.currentStep + 1 = r.committed.length

/-- The flags of the engine are right about the run that may be suspended on it. -/
def Sound (r : Record) : Option Run → Engine → Prop
  | none, e => e.Idle
  | some run, e => e.Suspended r run

section Flags

variable {r : Record} {run : Run} {e after : Engine}

theorem idle_idle (e : Engine) : e.idle.Idle := ⟨rfl, rfl, rfl⟩

/-- A new engine of the standard kind with its turtle in a place of its own. -/
def placed (pose : Pose) : Engine :=
  { width := .whole 800
    height := .whole 600
    palette := .standard
    budget := none
    speed := defaultSpeed
    turtle := .fresh pose Palette.standard.first
    penChoices := 0
    drawings := .empty
    running := false
    active := false
    currentStep := -1
    totalSteps := 0
    lastResult := none
    observers := .nobody }

theorem create_placed (pose : Pose) : create { start := some pose } = .ok (placed pose) := rfl

theorem create_idle {setup : Setup} (created : create setup = .ok e) : e.Idle := by
  unfold create at created
  repeat' split at created
  all_goals cases created
  exact ⟨rfl, rfl, rfl⟩

theorem create_nobody {setup : Setup} (created : create setup = .ok e) :
    e.observers = .nobody := by
  unfold create at created
  repeat' split at created
  all_goals cases created
  rfl

theorem Idle.steady (idle : e.Idle) (steady : Steady e after) : after.Idle := by
  refine ⟨steady.active.trans idle.active, steady.of_stopped idle.running, ?_⟩
  rcases steady.step_cases with step | step
  · exact step.trans idle.currentStep
  · exact step

theorem Suspended.steady (suspended : e.Suspended r run) (steady : Steady e after) :
    after.Suspended r run where
  active := steady.active.trans suspended.active
  totalSteps := steady.totalSteps.trans suspended.totalSteps
  program := suspended.program
  index := suspended.index
  lastResult := steady.lastResult.trans suspended.lastResult
  begun := suspended.begun
  currentStep := by
    obtain step | step := steady.step_cases
    · rw [step]
      exact suspended.currentStep
    · exact .inl step
  running := by
    intro running
    obtain ⟨before, step⟩ := steady.of_running running
    rw [step]
    exact suspended.running before

/-- Whatever leaves the run as it is leaves the flags right. -/
theorem Sound.steady {run : Option Run} (sound : e.Sound r run) (steady : Steady e after) :
    after.Sound r run := by
  cases run with
  | none => exact Idle.steady sound steady
  | some run => exact Suspended.steady sound steady

/-! ## One resumption -/

private theorem notified_idle (e : Engine) : e.idle.notify.2.Idle :=
  (idle_idle e).steady (notify_steady e.idle).1

/-- However a run ends with a result, the engine is idle, also where an observer fails then. -/
theorem finish_idle (e : Engine) (status : Status) (step : Nat) (hit : Option Obstacle)
    (sleeps : Nat) (delay : Option Float) :
    Session.runOf ⟨(e.finish status step hit).1, sleeps, delay⟩ = none ∧
      (e.finish status step hit).2.Idle := by
  have idle := notified_idle (e.record status step hit)
  unfold finish
  cases told : (e.record status step hit).idle.notify with
  | mk answer after =>
    rw [told] at idle
    cases answer <;> exact ⟨rfl, idle⟩

theorem cancel_idle (e : Engine) (sleeps : Nat) (delay : Option Float) :
    Session.runOf ⟨e.cancel.1, sleeps, delay⟩ = none ∧ e.cancel.2.Idle := by
  have idle := notified_idle (e.record .stopped e.currentStep none)
  unfold cancel
  cases told : (e.record .stopped e.currentStep none).idle.notify with
  | mk answer after =>
    rw [told] at idle
    cases answer <;> exact ⟨rfl, idle⟩

/-- The engine after a committed command is at its step, before and after the observers are told. -/
private theorem stepped_suspended {c : Command} {effect : Effect} {rest : List Command}
    (underway : e.Underway r run) (verdict : e.verdict run = .commits c effect rest) :
    (e.stepped run.index effect).Suspended (r.add [c]) ⟨rest, run.index + 1, run.obstacles⟩ := by
  obtain ⟨left, -, -, -, -⟩ := verdict_commits verdict
  have atLast : (e.stepped run.index effect).currentStep + 1 = (r.add [c]).committed.length := by
    simp [stepped, underway.index]
  exact
    { active := by simpa [stepped] using underway.active
      totalSteps := by simpa [stepped] using underway.totalSteps
      program := by simpa [left] using underway.program
      index := by simp [underway.index]
      lastResult := by simpa [stepped] using underway.lastResult
      begun := by simp
      currentStep := .inr atLast
      running := fun _ => atLast }

/-- A resumption leaves the flags right, whether it ends the run or suspends it again. -/
theorem resume_sound (underway : e.Underway r run) (sleeps : Nat) (delay : Option Float) :
    (e.resume run).2.Sound (r.add (e.committed run))
      (Session.runOf ⟨(e.resume run).1, sleeps, delay⟩) := by
  rw [resume_eq]
  unfold committed
  cases verdict : e.verdict run with
  | ends status hit =>
    obtain ⟨ended, idle⟩ := finish_idle e status run.index hit sleeps delay
    simp only [carryOut, ended]
    exact idle
  | breaks error => exact idle_idle e
  | commits c effect rest =>
    have steady := (notify_steady (e.stepped run.index effect)).1
    simp only [carryOut]
    split
    · exact idle_idle _
    · rename_i notified
      rw [notified] at steady
      exact (stepped_suspended underway verdict).steady steady

/-! ## Many resumptions -/

/-- What a run commits while it is carried on from where it is. -/
private def committedOn (count : Nat) (stretch : Stretch) (e : Engine) : List Command :=
  match Session.runOf stretch with
  | none => []
  | some run => e.committedIn count run

private theorem committedIn_succ (count : Nat) (e : Engine) (run : Run) (sleeps : Nat)
    (delay : Option Float) : e.committedIn (count + 1) run =
      e.committed run ++ committedOn count ⟨(e.resume run).1, sleeps, delay⟩ (e.resume run).2 := by
  cases resumed : e.resume run with
  | mk progress after => cases progress <;> simp [committedIn, committedOn, resumed, Session.runOf]

/-- Something that may hold of an engine, of the run that is suspended on it and of the commands
that the run has committed, and that no resumption breaks. -/
def Resumable (kept : List Command → Option Run → Engine → Prop) : Prop :=
  ∀ done e run sleeps delay, kept done (some run) e →
    kept (done ++ e.committed run) (Session.runOf ⟨(e.resume run).1, sleeps, delay⟩)
      (e.resume run).2

section Lifting

variable {kept : List Command → Option Run → Engine → Prop} (resumable : Resumable kept)
  {done : List Command}

include resumable

/-- What no resumption breaks is kept while a run is carried on. The induction is on the resumptions
that may still be made. -/
private theorem drive_keeps (count : Nat) (stretch : Stretch) (e : Engine)
    (now : kept done (Session.runOf stretch) e) :
    kept (done ++ committedOn count stretch e) (Session.runOf (drive count stretch e).1)
      (drive count stretch e).2 := by
  induction count generalizing stretch e done with
  | zero =>
    obtain ⟨progress, sleeps, delay⟩ := stretch
    cases progress <;> simpa [drive, committedOn, committedIn, Session.runOf] using now
  | succ more ih =>
    obtain ⟨progress, sleeps, delay⟩ := stretch
    cases progress with
    | returned | raised => simpa [drive, committedOn, Session.runOf] using now
    | suspended run wait =>
      have resumed := resumable done e run (sleeps + 1) (some wait) now
      have driven := ih _ _ resumed
      rw [List.append_assoc, ← committedIn_succ] at driven
      exact driven

theorem resumeTimes_keeps (count : Nat) (now : kept done (some run) e) :
    kept (done ++ e.committedIn count run) (Session.runOf (e.resumeTimes count run).1)
      (e.resumeTimes count run).2 := by
  cases count with
  | zero => simpa [committedIn, resumeTimes, Session.runOf] using now
  | succ more =>
    have driven := drive_keeps resumable more _ _ (resumable done e run 0 none now)
    rw [List.append_assoc, ← committedIn_succ] at driven
    exact driven

/-- A run that has just begun may have to be resumed once before the rest can be said of it. -/
theorem startTimes_keeps {commands steps : List Command} (obstacles : List Obstacle) (count : Nat)
    (accepted : e.accept commands = .ok steps)
    (first : kept ((e.begin steps).committed ⟨steps, 0, obstacles⟩)
      (Session.runOf ⟨((e.begin steps).resume ⟨steps, 0, obstacles⟩).1, 0, none⟩)
      ((e.begin steps).resume ⟨steps, 0, obstacles⟩).2) :
    kept ((e.begin steps).committedIn (count + 1) ⟨steps, 0, obstacles⟩)
      (Session.runOf (e.startTimes count commands obstacles).1)
      (e.startTimes count commands obstacles).2 := by
  have driven := drive_keeps resumable count _ _ first
  rw [← committedIn_succ] at driven
  simpa [startTimes, start, accepted] using driven

end Lifting

private theorem sound_resumable (r : Record) :
    Resumable fun done run e => e.Sound { r with committed := done } run := by
  intro done e run sleeps delay suspended
  have underway : e.Underway { r with committed := done } run := Suspended.toUnderway suspended
  exact resume_sound underway sleeps delay

/-- A run that is resumed for a while leaves the flags right. -/
theorem resumeTimes_sound (count : Nat) (suspended : e.Suspended r run) :
    (e.resumeTimes count run).2.Sound (r.add (e.committedIn count run))
      (Session.runOf (e.resumeTimes count run).1) :=
  resumeTimes_keeps (sound_resumable r) count suspended

/-! ## Starting -/

/-- A run that has just begun is under way, and has committed nothing. -/
theorem begin_underway (e : Engine) (steps : List Command) (obstacles : List Obstacle) :
    (e.begin steps).Underway ⟨steps, [], e.lastResult⟩ ⟨steps, 0, obstacles⟩ :=
  ⟨rfl, rfl, rfl, rfl, rfl⟩

section Starting

variable {commands steps : List Command} {error : EngineError} (obstacles : List Obstacle)

theorem startTimes_refused (count : Nat) (refused : e.accept commands = .error error) :
    e.startTimes count commands obstacles = (⟨.raised error, 0, none⟩, e) := by
  cases count <;> simp [startTimes, start, refused, drive]

theorem execute_refused (refused : e.accept commands = .error error) :
    e.execute commands obstacles = (⟨.raised error, 0, none⟩, e) := by
  simp [execute, start, refused, drive]

/-- A run from start to end is made of one resumption more than the program has steps. -/
theorem execute_accepted (accepted : e.accept commands = .ok steps) :
    e.execute commands obstacles = e.startTimes steps.length commands obstacles := by
  simp only [execute, startTimes, start, accepted]
  cases resumed : (e.begin steps).resume ⟨steps, 0, obstacles⟩ with
  | mk progress after =>
    cases progress with
    | suspended next delay =>
      obtain ⟨c, effect, verdict, -, -⟩ := resume_suspended resumed
      have left : steps = c :: next.rest := (verdict_commits verdict).1
      simp [left]
    | returned | raised => cases steps.length <;> rfl

theorem startTimes_sound (count : Nat) (accepted : e.accept commands = .ok steps) :
    (e.startTimes count commands obstacles).2.Sound (.ofStart e steps obstacles (count + 1))
      (Session.runOf (e.startTimes count commands obstacles).1) := by
  have first := resume_sound (begin_underway e steps obstacles) 0 none
  exact startTimes_keeps (sound_resumable ⟨steps, [], e.lastResult⟩) obstacles count accepted first

end Starting

end Flags

/-! ## Refusals and failures -/

section Failures

variable {e : Engine} {run : Run}

private theorem finish_ne_inProgress (e : Engine) (status : Status) (step : Nat)
    (hit : Option Obstacle) : (e.finish status step hit).1 ≠ .raised .inProgress := by
  have told := (notify_steady (e.record status step hit).idle).2
  unfold finish
  split
  · rename_i notified
    rw [notified] at told
    rintro ⟨rfl⟩
    exact told rfl
  · exact nofun

/-- A run that is under way does not fail because one is under way. -/
theorem resume_ne_inProgress (e : Engine) (run : Run) :
    (e.resume run).1 ≠ .raised .inProgress := by
  rw [resume_eq]
  cases verdict : e.verdict run with
  | ends status hit => exact finish_ne_inProgress e status run.index hit
  | breaks error =>
    rintro ⟨rfl⟩
    obtain ⟨c, impossible | impossible | ⟨_, impossible⟩⟩ := verdict_breaks verdict
    all_goals cases impossible
  | commits c effect rest =>
    have told := (notify_steady (e.stepped run.index effect)).2
    simp only [carryOut]
    split
    · rename_i notified
      rw [notified] at told
      rintro ⟨rfl⟩
      exact told rfl
    · intro impossible
      cases impossible

private theorem drive_ne_inProgress (count : Nat) (stretch : Stretch) (e : Engine)
    (given : stretch.progress ≠ .raised .inProgress) :
    (drive count stretch e).1.progress ≠ .raised .inProgress := by
  induction count generalizing stretch e with
  | zero =>
    obtain ⟨progress, sleeps, delay⟩ := stretch
    cases progress <;> exact given
  | succ more ih =>
    obtain ⟨progress, sleeps, delay⟩ := stretch
    cases progress with
    | returned | raised => exact given
    | suspended run wait => exact ih _ _ (resume_ne_inProgress e run)

private theorem checkBudget_ne_inProgress (e : Engine) (commands : List Command) :
    e.checkBudget commands ≠ .error .inProgress := by
  unfold checkBudget
  split
  · exact nofun
  · rename_i budget _
    split
    · exact nofun
    · rename_i steps _
      split
      · rcases EngineError.beyondBudget_cases steps budget with ⟨-, told⟩ | ⟨-, told⟩ <;>
          simp [told]
      · exact nofun

private theorem flatten_ne_inProgress (commands : List Command) :
    flatten commands ≠ .error .inProgress := by
  intro refused
  obtain ⟨bad, -, same⟩ := flatten_error_iff.mp refused
  rcases EngineError.malformed_cases bad with ⟨-, malformed⟩ | ⟨-, shown, -, malformed⟩
  all_goals
    rw [malformed] at same
    cases same

/-- A program is refused because a run is under way exactly when one is. -/
private theorem accept_inProgress_iff (e : Engine) (commands : List Command) :
    e.accept commands = .error .inProgress ↔ e.active = true := by
  unfold accept
  cases active : e.active with
  | true => simp
  | false =>
    simp only [Bool.false_eq_true, if_false, iff_false]
    cases checked : e.checkBudget commands with
    | error error =>
      rintro ⟨rfl⟩
      exact checkBudget_ne_inProgress e commands checked
    | ok _ => exact flatten_ne_inProgress commands

theorem startTimes_inProgress_iff (count : Nat) (e : Engine) (commands : List Command)
    (obstacles : List Obstacle) :
    (e.startTimes count commands obstacles).1.progress = .raised .inProgress ↔
      e.active = true := by
  rw [← accept_inProgress_iff e commands]
  cases accepted : e.accept commands with
  | error error => simp [startTimes_refused obstacles count accepted]
  | ok steps =>
    have begun := drive_ne_inProgress count
      ⟨((e.begin steps).resume ⟨steps, 0, obstacles⟩).1, 0, none⟩
      ((e.begin steps).resume ⟨steps, 0, obstacles⟩).2 (resume_ne_inProgress _ _)
    simpa [startTimes, start, accepted] using begun

theorem execute_inProgress_iff (e : Engine) (commands : List Command)
    (obstacles : List Obstacle) :
    (e.execute commands obstacles).1.progress = .raised .inProgress ↔ e.active = true := by
  cases accepted : e.accept commands with
  | error error =>
    rw [← accept_inProgress_iff e commands]
    simp [execute_refused obstacles accepted, accepted]
  | ok steps => rw [execute_accepted obstacles accepted, startTimes_inProgress_iff]

/-- The next resumption breaks a run off: its command cannot be done, or an observer fails when it
is shown the step. The observers are as they have been told by then. -/
inductive BreaksOff (e : Engine) (run : Run) : EngineError → Observers → Prop
  | command {error : EngineError} (verdict : e.verdict run = .breaks error) :
    BreaksOff e run error e.observers
  | observer {c : Command} {effect : Effect} {rest : List Command} {error : EngineError}
    {told : Engine} (verdict : e.verdict run = .commits c effect rest)
    (fails : (e.stepped run.index effect).notify = (.error error, told)) :
    BreaksOff e run error told.observers

/-- A run that is broken off leaves the result of the run before it, and tells nobody. -/
theorem resume_broken {error : EngineError} {observers : Observers}
    (broken : e.BreaksOff run error observers) :
    ∃ after, e.resume run = (.raised error, after) ∧ after.lastResult = e.lastResult ∧
      after.observers = observers := by
  rw [resume_eq]
  cases broken with
  | command verdict => exact ⟨e.idle, by simp [verdict, carryOut, fail], rfl, rfl⟩
  | @observer c effect rest _ told verdict fails =>
    have steady := (notify_steady (e.stepped run.index effect)).1
    rw [fails] at steady
    refine ⟨told.idle, by simp [verdict, carryOut, fails, fail], ?_, rfl⟩
    exact steady.lastResult.trans (by simp [stepped])

/-- A run breaks off at its next resumption or at one of so many after it. -/
inductive BreaksIn : Nat → Engine → Run → EngineError → Observers → Prop
  | now {count : Nat} {e : Engine} {run : Run} {error : EngineError} {observers : Observers}
    (broken : e.BreaksOff run error observers) : BreaksIn count e run error observers
  | later {count : Nat} {e after : Engine} {run next : Run} {delay : Float} {error : EngineError}
    {observers : Observers} (resumed : e.resume run = (.suspended next delay, after))
    (broken : BreaksIn count after next error observers) :
    BreaksIn (count + 1) e run error observers

private theorem suspended_lastResult {after : Engine} {next : Run} {delay : Float}
    (resumed : e.resume run = (.suspended next delay, after)) :
    after.lastResult = e.lastResult := by
  obtain ⟨c, effect, -, -, told⟩ := resume_suspended resumed
  have steady := (notify_steady (e.stepped run.index effect)).1
  rw [told] at steady
  exact steady.lastResult.trans (by simp [stepped])

/-- A run that is driven until it breaks off leaves what a run leaves that breaks off at once: the
steps before tell of themselves only. -/
private theorem drive_broken {count : Nat} {error : EngineError} {observers : Observers}
    (broken : BreaksIn count e run error observers) (sleeps : Nat) (delay : Option Float) :
    let left := drive count ⟨(e.resume run).1, sleeps, delay⟩ (e.resume run).2
    left.1.progress = .raised error ∧ left.2.lastResult = e.lastResult ∧
      left.2.observers = observers := by
  induction broken generalizing sleeps delay with
  | @now count _ _ _ _ broken =>
    obtain ⟨after, resumed, kept, told⟩ := resume_broken broken
    rw [resumed]
    cases count <;> exact ⟨rfl, kept, told⟩
  | @later count e after run next wait _ _ resumed _ ih =>
    obtain ⟨raised, kept, told⟩ := ih (sleeps + 1) (some wait)
    rw [resumed]
    exact ⟨raised, kept.trans (suspended_lastResult resumed), told⟩

end Failures

end Engine

/-! ## Sessions -/

namespace Session

/-- The engine of a session is right about its run. -/
def Sound (s : Session) (r : Record) : Prop := s.engine.Sound r s.run

variable {s : Session} {r : Record}

theorem Sound.suspended (sound : s.Sound r) {run : Run} (left : s.run = some run) :
    s.engine.Suspended r run := by
  unfold Sound at sound
  rw [left] at sound
  exact sound

theorem Sound.idle (sound : s.Sound r) (ended : s.run = none) : s.engine.Idle := by
  unfold Sound at sound
  rw [ended] at sound
  exact sound

theorem Sound.active_iff (sound : s.Sound r) : s.engine.active = true ↔ s.run.isSome = true := by
  cases left : s.run with
  | none => simp [(sound.idle left).active]
  | some run => simp [(sound.suspended left).active]

/-- A program that is not accepted changes nothing. -/
theorem started_refused {error : EngineError} :
    (s.started (⟨.raised error, 0, none⟩, s.engine)).2 = s := by
  obtain ⟨engine, run⟩ := s
  cases run <;> rfl

/-- A run starts only when none is suspended. -/
theorem run_of_accepted (sound : s.Sound r) {commands steps : List Command}
    (accepted : s.engine.accept commands = .ok steps) : s.run = none := by
  cases left : s.run with
  | none => rfl
  | some run =>
    have active := sound.active_iff.mpr (by simp [left])
    rw [Engine.accept, if_pos active] at accepted
    cases accepted

private theorem perform_start_sound (sound : s.Sound r) (commands : List Command)
    (obstacles : List Obstacle) : (s.perform (.start commands obstacles)).2.Sound
      (r.next s (.start commands obstacles)) := by
  cases accepted : s.engine.accept commands with
  | error error =>
    simp only [perform, Record.next, accepted, Engine.startTimes_refused obstacles 0 accepted,
      started_refused]
    exact sound
  | ok steps =>
    have begun := Engine.startTimes_sound obstacles 0 accepted
    simp only [perform, Record.next, accepted, started, run_of_accepted sound accepted]
    exact begun

private theorem perform_execute_sound (sound : s.Sound r) (commands : List Command)
    (obstacles : List Obstacle) : (s.perform (.execute commands obstacles)).2.Sound
      (r.next s (.execute commands obstacles)) := by
  cases accepted : s.engine.accept commands with
  | error error =>
    simp only [perform, Record.next, accepted, Engine.execute_refused obstacles accepted,
      started_refused]
    exact sound
  | ok steps =>
    have begun := Engine.startTimes_sound obstacles steps.length accepted
    rw [← Engine.execute_accepted obstacles accepted] at begun
    simp only [perform, Record.next, accepted, started, run_of_accepted sound accepted]
    exact begun

/-- Every operation leaves the flags right, and the record is kept up with it. -/
theorem perform_sound (sound : s.Sound r) (operation : Operation) :
    (s.perform operation).2.Sound (r.next s operation) := by
  cases operation with
  | start commands obstacles => exact perform_start_sound sound commands obstacles
  | execute commands obstacles => exact perform_execute_sound sound commands obstacles
  | resume count =>
    cases left : s.run with
    | none => simpa only [perform, Record.next, left] using sound
    | some run =>
      simp only [perform, Record.next, left]
      exact Engine.resumeTimes_sound count (sound.suspended left)
  | finish =>
    cases left : s.run with
    | none => simpa only [perform, Record.next, left] using sound
    | some run =>
      simp only [perform, Record.next, left]
      exact Engine.resumeTimes_sound _ (sound.suspended left)
  | cancel =>
    cases left : s.run with
    | none => simpa only [perform, Record.next, left] using sound
    | some run =>
      obtain ⟨ended, idle⟩ := Engine.cancel_idle s.engine 0 none
      simp only [perform, Record.next, left, drove, Sound, ended]
      exact idle
  | stop => exact Engine.Sound.steady sound ⟨rfl, rfl, rfl, .inr ⟨rfl, .inl rfl⟩⟩
  | reset start =>
    have reset := Engine.Sound.steady sound (Engine.reset_steady s.engine start)
    simp only [perform, told, Record.next]
    split <;> (rename_i done; rw [done] at reset; exact reset)
  | apply command =>
    simp only [perform, Record.next]
    split
    · exact sound
    · rename_i applied
      obtain ⟨effect, -, -, rfl⟩ := Engine.apply_eq_ok applied
      exact Engine.Sound.steady sound (Engine.commit_steady s.engine effect)
  | setColor | setPenSize | subscribe | unsubscribe =>
    exact Engine.Sound.steady sound ⟨rfl, rfl, rfl, .inl ⟨rfl, rfl⟩⟩
  | setSpeed speed =>
    simp only [perform, Record.next, Engine.setSpeed]
    cases clampSpeed speed with
    | error fault => exact sound
    | ok speed => exact Engine.Sound.steady sound ⟨rfl, rfl, rfl, .inl ⟨rfl, rfl⟩⟩

/-- Operations in any order leave the flags right. -/
theorem performAll_sound (sound : s.Sound r) (operations : List Operation) :
    (s.performAll operations).Sound (r.nextAll s operations) := by
  induction operations generalizing s r with
  | nil => exact sound
  | cons operation rest ih => exact ih (perform_sound sound operation)

private theorem answerOf_failed_iff (stretch : Stretch) (error : EngineError) :
    answerOf stretch = .failed error ↔ stretch.progress = .raised error := by
  unfold answerOf
  cases stretch.progress <;> simp

private theorem started_answer (s : Session) (result : Stretch × Engine) :
    (s.started result).1 = answerOf result.1 := by
  unfold started
  split <;> rfl

/-- A program is refused because of another run exactly while one is suspended. -/
private theorem Sound.refused_iff (sound : s.Sound r) (commands : List Command)
    (obstacles : List Obstacle) :
    ((s.perform (.start commands obstacles)).1 = .failed .inProgress ↔ s.run.isSome = true) ∧
    ((s.perform (.execute commands obstacles)).1 = .failed .inProgress ↔ s.run.isSome = true) := by
  simp only [perform, started_answer, answerOf_failed_iff, Engine.startTimes_inProgress_iff,
    Engine.execute_inProgress_iff, sound.active_iff, and_self]

theorem Sound.currentStep_range (sound : s.Sound r) : s.engine.currentStep = -1 ∨
    0 ≤ s.engine.currentStep ∧ s.engine.currentStep < s.engine.totalSteps := by
  cases left : s.run with
  | none => exact .inl (sound.idle left).currentStep
  | some run =>
    have suspended := sound.suspended left
    have begun : 0 < r.committed.length := List.length_pos_iff.mpr suspended.begun
    have length := congrArg List.length suspended.program
    rw [List.length_append] at length
    have total := suspended.totalSteps
    refine suspended.currentStep.imp_right fun last => ?_
    omega

/-- An operation makes a run break off, at the step it begins with or at a later one. -/
inductive Breaks (s : Session) : Operation → EngineError → Observers → Prop
  | start {commands steps : List Command} {obstacles : List Obstacle} {error : EngineError}
    {observers : Observers} (accepted : s.engine.accept commands = .ok steps)
    (broken : Engine.BreaksIn 0 (s.engine.begin steps) ⟨steps, 0, obstacles⟩ error observers) :
    Breaks s (.start commands obstacles) error observers
  | execute {commands steps : List Command} {obstacles : List Obstacle} {error : EngineError}
    {observers : Observers} (accepted : s.engine.accept commands = .ok steps)
    (broken : Engine.BreaksIn steps.length (s.engine.begin steps) ⟨steps, 0, obstacles⟩ error
      observers) :
    Breaks s (.execute commands obstacles) error observers
  | resume {run : Run} {more : Nat} {error : EngineError} {observers : Observers}
    (left : s.run = some run) (broken : Engine.BreaksIn more s.engine run error observers) :
    Breaks s (.resume (more + 1)) error observers
  | finish {run : Run} {error : EngineError} {observers : Observers} (left : s.run = some run)
    (broken : Engine.BreaksIn run.rest.length s.engine run error observers) :
    Breaks s .finish error observers

/-- What is left when an operation has made its run break off: the error is passed on, no run is
suspended, the result stands as before, and nobody has been told any more. -/
def BrokenOff (before : Option RunResult) (error : EngineError) (observers : Observers)
    (left : Answer × Session) : Prop :=
  left.1 = .failed error ∧ left.2.run = none ∧ left.2.engine.lastResult = before ∧
    left.2.engine.observers = observers

section Breaking

variable {error : EngineError} {observers : Observers}

private theorem drove_brokenOff {before : Option RunResult} {result : Stretch × Engine}
    (left : result.1.progress = .raised error ∧ result.2.lastResult = before ∧
      result.2.observers = observers) : BrokenOff before error observers (drove result) := by
  obtain ⟨raised, kept, told⟩ := left
  refine ⟨(answerOf_failed_iff _ _).mpr raised, ?_, kept, told⟩
  simp [drove, runOf, raised]

private theorem startTimes_brokenOff {count : Nat} {commands steps : List Command}
    {obstacles : List Obstacle} (sound : s.Sound r)
    (accepted : s.engine.accept commands = .ok steps)
    (broken : Engine.BreaksIn count (s.engine.begin steps) ⟨steps, 0, obstacles⟩ error observers) :
    BrokenOff s.engine.lastResult error observers
      (s.started (s.engine.startTimes count commands obstacles)) := by
  have left := Engine.drive_broken broken 0 none
  simp only [started, run_of_accepted sound accepted, Engine.startTimes, Engine.start, accepted]
  exact drove_brokenOff left

/-- A run that breaks off leaves the result that stood when it was started. -/
private theorem Sound.brokenOff (sound : s.Sound r) {operation : Operation}
    (breaks : s.Breaks operation error observers) :
    BrokenOff (r.next s operation).before error observers (s.perform operation) := by
  cases breaks with
  | start accepted broken =>
    simp only [perform, Record.next, accepted]
    exact startTimes_brokenOff sound accepted broken
  | @execute _ _ obstacles _ _ accepted broken =>
    simp only [perform, Record.next, accepted, Engine.execute_accepted obstacles accepted]
    exact startTimes_brokenOff sound accepted broken
  | resume left broken =>
    simp only [perform, Record.next, left, Record.add_before]
    rw [← (sound.suspended left).lastResult]
    exact drove_brokenOff (Engine.drive_broken broken 0 none)
  | finish left broken =>
    simp only [perform, Record.next, left, Record.add_before]
    rw [← (sound.suspended left).lastResult]
    exact drove_brokenOff (Engine.drive_broken broken 0 none)

end Breaking

end Session

/-! ## The life of an engine -/

/-- A new engine under operations in any order, with observers that act and fail as they like. It is
active exactly while a run is suspended, and only then can it be running; an idle engine is at no
step, and an engine is never at a step that its run does not have. While a run goes on, the engine
is at the last command that it has committed, and counts the steps of its program. A program is
refused because of another run exactly while one is suspended, so no ending of a run stands in the
way of the next. A run that breaks off at a command or at an observer, at its first step or later,
leaves the result that stood when it was started, and nobody is told of its end. -/
theorem flags_follow_run (setup : Setup) (engine : Engine)
    (created : Engine.create setup = .ok engine) (operations : List Operation) :
    let s := (Session.ofEngine engine).performAll operations
    let r := Record.blank.nextAll (.ofEngine engine) operations
    (s.engine.active = true ↔ s.run.isSome = true) ∧
    (s.engine.running = true → s.engine.active = true) ∧
    (s.engine.active = false → s.engine.currentStep = -1) ∧
    (s.engine.currentStep = -1 ∨
      0 ≤ s.engine.currentStep ∧ s.engine.currentStep < s.engine.totalSteps) ∧
    (s.engine.active = true → s.engine.running = true →
      0 ≤ s.engine.currentStep ∧ s.engine.currentStep + 1 = r.committed.length ∧
        r.committed <+: r.program ∧ s.engine.totalSteps = r.program.length) ∧
    (∀ commands obstacles,
      ((s.perform (.start commands obstacles)).1 = .failed .inProgress ↔ s.run.isSome = true) ∧
      ((s.perform (.execute commands obstacles)).1 = .failed .inProgress ↔ s.run.isSome = true)) ∧
    (∀ operation error observers, s.Breaks operation error observers →
      Session.BrokenOff (r.next s operation).before error observers (s.perform operation)) := by
  intro s r
  have fresh : (Session.ofEngine engine).Sound .blank := Engine.create_idle created
  have sound : s.Sound r := Session.performAll_sound fresh operations
  refine ⟨sound.active_iff, ?_, ?_, sound.currentStep_range, ?_, sound.refused_iff, ?_⟩
  · intro running
    cases left : s.run with
    | none =>
      rw [(sound.idle left).running] at running
      cases running
    | some run => exact (sound.suspended left).active
  · intro inactive
    cases left : s.run with
    | none => exact (sound.idle left).currentStep
    | some run =>
      rw [(sound.suspended left).active] at inactive
      cases inactive
  · intro active running
    obtain ⟨run, left⟩ := Option.isSome_iff_exists.mp (sound.active_iff.mp active)
    have suspended := sound.suspended left
    have last := suspended.running running
    have begun : 0 < r.committed.length := List.length_pos_iff.mpr suspended.begun
    exact ⟨by omega, last, ⟨run.rest, suspended.program.symm⟩, suspended.totalSteps⟩
  · intro operation error observers breaks
    exact sound.brokenOff breaks

private def lift : Command := ⟨.penUp, none, [], 1, 1⟩

/-- An observer breaks the first run off at its second step, after another one was refused; the
second run is resumed once. -/
private def crowdedOperations : List Operation :=
  [.subscribe "critic" [⟨1, .fail⟩], .start [lift, lift, lift] [], .execute [lift] [], .resume 1,
    .start [lift, lift, lift, lift] [], .setColor "#FFFFFF", .resume 1]

private theorem critic_breaks :
    let first := (Session.ofEngine (.placed ⟨40.0, 30.0, 0.0⟩)).performAll
      (crowdedOperations.take 3)
    ∃ observers, first.Breaks (.resume 1) (.observerFailed "critic") observers :=
  ⟨_, .resume rfl (.now (.observer rfl rfl))⟩

/-- The first run breaks off when it is resumed. The second one is at its second step then, and it
is that run's steps that are counted. -/
theorem flags_follow_second_run :
    let engine := Engine.placed ⟨40.0, 30.0, 0.0⟩
    let first := (Session.ofEngine engine).performAll (crowdedOperations.take 3)
    let s := (Session.ofEngine engine).performAll crowdedOperations
    let r := Record.blank.nextAll (.ofEngine engine) crowdedOperations
    Engine.create { start := some ⟨40.0, 30.0, 0.0⟩ } = .ok engine ∧
      (∃ observers, Session.BrokenOff none (.observerFailed "critic") observers
        (first.perform (.resume 1))) ∧
      s.engine.active = true ∧ s.engine.running = true ∧ 0 ≤ s.engine.currentStep ∧
      s.engine.currentStep + 1 = r.committed.length ∧ r.committed <+: r.program ∧
      s.engine.totalSteps = r.program.length := by
  have created := Engine.create_placed ⟨40.0, 30.0, 0.0⟩
  have early := flags_follow_run _ _ created (crowdedOperations.take 3)
  have late := flags_follow_run _ _ created crowdedOperations
  obtain ⟨observers, breaks⟩ := critic_breaks
  exact ⟨created, ⟨observers, early.2.2.2.2.2.2 _ _ _ breaks⟩, rfl, rfl,
    late.2.2.2.2.1 rfl rfl⟩

end TurtleScript
