import TurtleScript.Proofs.History

/-!
The results that runs record. A run that is resumed to its end records the number of the step that
it came to, which is a step of its program or the number of all of them. A run that is cancelled
records what the engine says its step is, and a reset has made that no step at all. So there is one
way to record a result that names no step, and here it is told exactly: the engine is reset, by its
holder or by an observer, after the last step of a run, and then the run is cancelled.
-/
namespace TurtleScript

/-! ## What is recorded -/

/-- The result that a resumption records: only one that ends the run records any. -/
def Resumption.recorded? (x : Resumption) : Option RunResult :=
  match x.verdict with
  | .ends status hit => some ⟨status, x.run.index, hit⟩
  | _ => none

/-- The result that an operation makes a run record. -/
def Session.recorded? (s : Session) : Operation → Option RunResult
  | .cancel => s.run.map fun _ => ⟨.stopped, s.engine.currentStep, none⟩
  | operation => (s.resumptions operation).findSome? Resumption.recorded?

namespace Engine

/-- A resumption leaves the result that it records, or the one that stood. -/
theorem resume_result (e : Engine) (run : Run) :
    (e.resume run).2.lastResult = (Resumption.recorded? ⟨e, run⟩).or e.lastResult ∧
      (e.resume run).2.totalSteps = e.totalSteps := by
  rw [resume_eq]
  unfold Resumption.recorded? Resumption.verdict
  cases verdict : e.verdict run with
  | ends status hit =>
    have steady := (notify_steady (e.record status run.index hit).idle).1
    simp only [carryOut, finish_engine]
    exact ⟨steady.lastResult, steady.totalSteps⟩
  | breaks error => exact ⟨rfl, rfl⟩
  | commits c effect rest =>
    have steady := (notify_steady (e.stepped run.index effect)).1
    have lastResult := steady.lastResult.trans
      (show (e.stepped run.index effect).lastResult = e.lastResult by simp [stepped])
    have totalSteps := steady.totalSteps.trans
      (show (e.stepped run.index effect).totalSteps = e.totalSteps by simp [stepped])
    obtain after | after := commits_engine e run c effect rest
    · rw [after]
      exact ⟨lastResult, totalSteps⟩
    · rw [after]
      exact ⟨lastResult, totalSteps⟩

theorem cancel_result (e : Engine) :
    e.cancel.2.lastResult = some ⟨.stopped, e.currentStep, none⟩ ∧
      e.cancel.2.totalSteps = e.totalSteps := by
  have steady := (notify_steady (e.record .stopped e.currentStep none).idle).1
  rw [cancel_engine]
  exact ⟨steady.lastResult, steady.totalSteps⟩

private theorem recorded?_suspended {e after : Engine} {run next : Run} {delay : Float}
    (resumed : e.resume run = (.suspended next delay, after)) :
    Resumption.recorded? ⟨e, run⟩ = none := by
  obtain ⟨c, effect, verdict, -⟩ := resume_suspended resumed
  simp [Resumption.recorded?, Resumption.verdict, verdict]

/-- A run that is pursued leaves the result that one of its resumptions records, or the one that
stood. -/
theorem pursue_result (more : Nat) (e : Engine) (run : Run) :
    (e.pursue more run).2.lastResult =
        ((e.resumptions more run).findSome? Resumption.recorded?).or e.lastResult ∧
      (e.pursue more run).2.totalSteps = e.totalSteps := by
  induction more generalizing e run with
  | zero =>
    have result := resume_result e run
    simpa only [pursue, resumptions, List.findSome?_singleton] using result
  | succ more ih =>
    have result := resume_result e run
    simp only [pursue, resumptions]
    cases resumed : e.resume run with
    | mk progress after =>
      rw [resumed] at result
      cases progress with
      | suspended next delay =>
        have unrecorded := recorded?_suspended resumed
        obtain ⟨lastResult, totalSteps⟩ := ih after next
        rw [unrecorded] at result
        simp only [List.findSome?_cons, unrecorded]
        exact ⟨by rw [lastResult, result.1, Option.none_or], totalSteps.trans result.2⟩
      | returned | raised => simpa only [List.findSome?_singleton] using result

/-- Every resumption of a run that is pursued finds the run under way, with all its steps. -/
theorem resumptions_underway {r : Record} (more : Nat) {e : Engine} {run : Run}
    (underway : e.Underway r run) : ∀ x ∈ e.resumptions more run,
      x.engine.totalSteps = e.totalSteps ∧ ∃ r, x.engine.Underway r x.run := by
  induction more generalizing e run r with
  | zero =>
    intro x member
    rw [List.mem_singleton.mp member]
    exact ⟨rfl, r, underway⟩
  | succ more ih =>
    intro x member
    rcases List.mem_cons.mp member with rfl | later
    · exact ⟨rfl, r, underway⟩
    have sound := resume_sound underway 0 none
    have same := (resume_result e run).2
    cases resumed : e.resume run with
    | mk progress after =>
      rw [resumed] at later sound same
      cases progress with
      | suspended next delay =>
        have suspended : after.Suspended _ next := sound
        obtain ⟨total, found⟩ := ih suspended.toUnderway x later
        exact ⟨total.trans same, found⟩
      | returned | raised => cases later

theorem Underway.index_le {r : Record} {run : Run} {e : Engine} (underway : e.Underway r run) :
    run.index ≤ e.totalSteps := by
  have length := congrArg List.length underway.program
  rw [List.length_append] at length
  have total := underway.totalSteps
  have index := underway.index
  omega

end Engine

/-! ## Operations -/

theorem Engine.Touches.steady {e after : Engine} {operation : Operation}
    (touched : e.Touches operation after) : e.Steady after := by
  cases touched with
  | start | execute | resume | finish | cancel | refused => exact .refl e
  | stop => exact ⟨rfl, rfl, rfl, .inr ⟨rfl, .inl rfl⟩⟩
  | setColor | setPenSize | setSpeed | subscribe | unsubscribe =>
    exact ⟨rfl, rfl, rfl, .inl ⟨rfl, rfl⟩⟩
  | reset start => exact e.reset_steady start
  | @apply c effect found => exact e.commit_steady effect

namespace Session

variable {s : Session} {r : Record} {operation : Operation}

private theorem recorded?_of_pursuit {first : Resumption} {more : Nat}
    (pursued : s.pursuit? operation = some (first, more)) : s.recorded? operation =
      (first.engine.resumptions more first.run).findSome? Resumption.recorded? := by
  cases operation with
  | cancel => cases pursued
  | _ => simp only [recorded?, resumptions, pursued]

private theorem recorded?_unpursued (unpursued : s.pursuit? operation = none)
    (uncancelled : operation = .cancel → s.run = none) : s.recorded? operation = none := by
  cases operation with
  | cancel => simp [recorded?, uncancelled rfl]
  | _ => simp [recorded?, resumptions, unpursued]

/-- An operation leaves the result that it makes a run record, or the one that stood. -/
theorem perform_result (s : Session) (operation : Operation) :
    (s.perform operation).2.engine.lastResult =
      (s.recorded? operation).or s.engine.lastResult := by
  cases s.perform_does operation with
  | @pursues first more pursued left =>
    have begun : first.engine.lastResult = s.engine.lastResult := by
      obtain ⟨_, steps, _, -, rfl⟩ | ⟨_, -, rfl⟩ := pursuit_cases pursued <;> rfl
    rw [left, recorded?_of_pursuit pursued, ← begun]
    exact (Engine.pursue_result more first.engine first.run).1
  | cancels suspended cancel left =>
    subst cancel
    rw [left]
    simp [recorded?, suspended, (Engine.cancel_result s.engine).1]
  | touches unpursued uncancelled touched _ =>
    rw [recorded?_unpursued unpursued uncancelled]
    exact touched.steady.lastResult

/-- A result names a step of its run, or the number of all of them, exactly unless it is that of a
run that was cancelled when the engine was at no step. -/
theorem Sound.recorded_in_range (sound : s.Sound r) {result : RunResult}
    (recorded : s.recorded? operation = some result) :
    (0 ≤ result.step ∧ result.step ≤ (s.perform operation).2.engine.totalSteps) ↔
      ¬ (operation = .cancel ∧ s.engine.currentStep = -1) := by
  cases s.perform_does operation with
  | @pursues first more pursued left =>
    have other : operation ≠ .cancel := by
      rintro rfl
      cases pursued
    obtain ⟨r, underway⟩ : ∃ r, first.engine.Underway r first.run := by
      obtain ⟨_, steps, obstacles, -, rfl⟩ | ⟨run, suspended, rfl⟩ := pursuit_cases pursued
      · exact ⟨_, Engine.begin_underway s.engine steps obstacles⟩
      · exact ⟨r, (sound.suspended suspended).toUnderway⟩
    rw [recorded?_of_pursuit pursued] at recorded
    obtain ⟨x, member, own⟩ := List.exists_of_findSome?_eq_some recorded
    obtain ⟨total, r, found⟩ := Engine.resumptions_underway more underway x member
    have index := found.index_le
    have step : result.step = x.run.index := by
      unfold Resumption.recorded? at own
      split at own <;> cases own
      rfl
    rw [left, (Engine.pursue_result more first.engine first.run).2, step]
    simp only [other, false_and, not_false_eq_true, iff_true]
    omega
  | cancels suspended cancel left =>
    subst cancel
    have step : result.step = s.engine.currentStep := by
      simp only [recorded?, suspended, Option.map_some, Option.some.injEq] at recorded
      rw [← recorded]
    have range := sound.currentStep_range
    rw [left, step, (Engine.cancel_result s.engine).2]
    simp only [true_and]
    omega
  | touches unpursued uncancelled _ _ =>
    rw [recorded?_unpursued unpursued uncancelled] at recorded
    cases recorded

end Session

/-! ## Resets -/

/-- Whether the engine finds a place to be reset to. -/
def Engine.findsPlace (e : Engine) (start : Option Pose) : Bool :=
  match start.elim (centerOf e.width e.height) Except.ok with
  | .error _ => false
  | .ok _ => true

namespace Session

/-- Whether the engine has been reset since a run was last resumed on it, after one more
operation. -/
def resetBy (s : Session) (reset : Bool) : Operation → Bool
  | .reset start => reset || s.engine.findsPlace start
  | operation => reset && (s.resumptions operation).isEmpty

/-- Whether the engine has been reset since a run was last resumed on it, after operations in
order. -/
def resetByAll (s : Session) (reset : Bool) : List Operation → Bool
  | [] => reset
  | operation :: rest => (s.perform operation).2.resetByAll (s.resetBy reset operation) rest

end Session

namespace Engine

theorem resumptions_ne_nil (more : Nat) (e : Engine) (run : Run) :
    e.resumptions more run ≠ [] := by
  cases more <;> exact List.cons_ne_nil _ _

theorem Touches.of_reset {e after : Engine} {start : Option Pose}
    (touched : e.Touches (.reset start) after) : after = (e.reset start).2 := by
  cases touched
  rfl

/-- An engine that is reset is at no step, unless it finds no place and stays as it is. -/
theorem reset_step (e : Engine) (start : Option Pose) :
    e.findsPlace start = true ∧ (e.reset start).2.currentStep = -1 ∨
      e.findsPlace start = false ∧ (e.reset start).2 = e := by
  cases place : start.elim (centerOf e.width e.height) Except.ok with
  | error fault => exact .inr (by simp [findsPlace, reset, resetWith, place])
  | ok pose =>
    refine .inl ⟨by simp [findsPlace, place], ?_⟩
    simp only [reset, resetWith, place]
    rcases (notify_steady (e.restart pose)).1.step_cases with step | step
    · exact step
    · exact step

end Engine

namespace Session

variable {s : Session} {reset : Bool} {operation : Operation}

/-- A run that is pursued has not been reset since. -/
private theorem resetBy_pursued {first : Resumption} {more : Nat}
    (pursued : s.pursuit? operation = some (first, more)) : s.resetBy reset operation = false := by
  have resumed : s.resumptions operation ≠ [] := by
    simpa only [resumptions, pursued] using Engine.resumptions_ne_nil more _ _
  cases operation with
  | reset => cases pursued
  | _ => simp [resetBy, resumed]

private theorem resetBy_touched (unpursued : s.pursuit? operation = none)
    (other : ∀ start, operation ≠ .reset start) : s.resetBy reset operation = reset := by
  cases operation with
  | reset start => exact absurd rfl (other start)
  | _ => simp [resetBy, resumptions, unpursued]

/-- An engine that has been reset since a run was last resumed on it is at no step. -/
theorem perform_reset (left : reset = true → s.engine.currentStep = -1) (operation : Operation) :
    s.resetBy reset operation = true → (s.perform operation).2.engine.currentStep = -1 := by
  intro flagged
  cases s.perform_does operation with
  | pursues pursued _ =>
    rw [resetBy_pursued pursued] at flagged
    cases flagged
  | cancels _ _ after =>
    rw [after]
    exact (Engine.cancel_idle s.engine 0 none).2.currentStep
  | touches unpursued _ touched _ =>
    have steps := touched.steady.step_cases
    by_cases resets : ∃ start, operation = .reset start
    · obtain ⟨start, rfl⟩ := resets
      rw [touched.of_reset]
      obtain ⟨-, step⟩ | ⟨noPlace, same⟩ := s.engine.reset_step start
      · exact step
      · rw [same]
        exact left (by simpa [resetBy, noPlace] using flagged)
    · have other : ∀ start, operation ≠ .reset start := fun start same => resets ⟨start, same⟩
      rw [resetBy_touched unpursued other] at flagged
      rcases steps with step | step
      · rw [step]
        exact left flagged
      · exact step

theorem performAll_reset (left : reset = true → s.engine.currentStep = -1)
    (operations : List Operation) :
    s.resetByAll reset operations = true → (s.performAll operations).engine.currentStep = -1 := by
  induction operations generalizing s reset with
  | nil => exact left
  | cons operation rest ih => exact ih (perform_reset left operation)

end Session

/-! ## Observers that do not reset -/

/-- A response that is no reset. -/
def Response.Staying (r : Response) : Prop := ∀ start, r ≠ .reset start

/-- An operation that brings no observer who resets. -/
def Operation.Staying : Operation → Prop
  | .subscribe _ reactions => ∀ reaction ∈ reactions, reaction.response.Staying
  | _ => True

namespace Engine

variable {e : Engine}

/-- Only a reset makes an engine leave its step. -/
theorem notify_stays (stay : e.observers.Give Response.Staying) :
    e.notify.2.currentStep = e.currentStep ∧ e.notify.2.observers.Give Response.Staying := by
  have borne : Borne Response.Staying
      (fun e result => result.2.currentStep = e.currentStep) :=
    { still := fun _ => rfl
      next := fun first second => second.trans first
      observers := fun _ _ => rfl
      response := by
        intro tell e r name staying _ _
        cases r with
        | stop | fail | misuse | color | unsubscribe | subscribe => rfl
        | reset start => exact absurd rfl (staying start)
        | apply command =>
          simp only [respond]
          split
          · rfl
          · rename_i applied
            obtain ⟨effect, -, -, rfl⟩ := apply_eq_ok applied
            exact e.commit_currentStep effect
        | start =>
          simp only [respond]
          split <;> rfl }
  exact notify_keeps borne stay

/-- A run that is still under way after a resumption is at the step that was made. -/
theorem resume_stays (stay : e.observers.Give Response.Staying) (run : Run) :
    (e.resume run).2.observers.Give Response.Staying ∧
      ((e.resume run).2.active = true → (e.resume run).2.currentStep = run.index) := by
  rw [resume_eq]
  cases verdict : e.verdict run with
  | ends status hit =>
    have told := notify_stays (e := (e.record status run.index hit).idle) stay
    have idle := (finish_idle e status run.index hit 0 none).2.active
    simp only [carryOut]
    refine ⟨?_, fun active => absurd active (by simp [idle])⟩
    rw [finish_engine]
    exact told.2
  | breaks error => exact ⟨stay, fun active => absurd active Bool.false_ne_true⟩
  | commits c effect rest =>
    have stepped : (e.stepped run.index effect).observers.Give Response.Staying := by
      simpa [Engine.stepped] using stay
    have told := notify_stays stepped
    have step : (e.stepped run.index effect).currentStep = run.index := by simp [Engine.stepped]
    obtain after | after := commits_engine e run c effect rest
    · rw [after]
      exact ⟨told.2, fun _ => told.1.trans step⟩
    · rw [after]
      exact ⟨told.2, fun active => absurd active Bool.false_ne_true⟩

theorem pursue_stays (more : Nat) (e : Engine) (run : Run)
    (stay : e.observers.Give Response.Staying) :
    (e.pursue more run).2.observers.Give Response.Staying ∧
      ((e.pursue more run).2.active = true → 0 ≤ (e.pursue more run).2.currentStep) := by
  induction more generalizing e run with
  | zero =>
    obtain ⟨stays, step⟩ := resume_stays stay run
    exact ⟨stays, fun active => by rw [pursue, step active]; omega⟩
  | succ more ih =>
    obtain ⟨stays, step⟩ := resume_stays stay run
    simp only [pursue]
    cases resumed : e.resume run with
    | mk progress after =>
      rw [resumed] at stays step
      cases progress with
      | suspended next delay => exact ih after next stays
      | returned | raised => exact ⟨stays, fun active => by rw [step active]; omega⟩

theorem cancel_stays (stay : e.observers.Give Response.Staying) :
    e.cancel.2.observers.Give Response.Staying := by
  rw [cancel_engine]
  exact (notify_stays (e := (e.record .stopped e.currentStep none).idle) stay).2

theorem reset_stays (stay : e.observers.Give Response.Staying) (start : Option Pose) :
    (e.reset start).2.observers.Give Response.Staying := by
  unfold reset resetWith
  split
  · exact stay
  · exact (notify_stays (e := e.restart _) stay).2

theorem Touches.stays {after : Engine} {operation : Operation}
    (touched : e.Touches operation after) (staying : operation.Staying)
    (stay : e.observers.Give Response.Staying) :
    after.observers.Give Response.Staying ∧
      ((∀ start, operation ≠ .reset start) → after.currentStep = e.currentStep) := by
  cases touched with
  | start | execute | resume | finish | cancel | refused | stop | setColor | setPenSize
  | setSpeed => exact ⟨stay, fun _ => rfl⟩
  | reset start => exact ⟨reset_stays stay start, fun other => absurd rfl (other start)⟩
  | @apply c effect found => exact ⟨by simpa using stay, fun _ => by simp⟩
  | subscribe name reactions => exact ⟨stay.subscribe name staying, fun _ => rfl⟩
  | unsubscribe ticket => exact ⟨stay.unsubscribe ticket, fun _ => rfl⟩

end Engine

namespace Session

/-- No observer resets, and a suspended run that has left its step was reset. -/
structure Stays (s : Session) (reset : Bool) : Prop where
  stay : s.engine.observers.Give Response.Staying
  left : s.run.isSome = true → s.engine.currentStep = -1 → reset = true

variable {s : Session} {r : Record} {reset : Bool}

theorem perform_stays (sound : s.Sound r) (stays : s.Stays reset) {operation : Operation}
    (staying : operation.Staying) :
    (s.perform operation).2.Stays (s.resetBy reset operation) := by
  have later := perform_sound sound operation
  cases s.perform_does operation with
  | @pursues first more pursued left =>
    have begun : first.engine.observers.Give Response.Staying := by
      obtain ⟨_, steps, _, -, rfl⟩ | ⟨_, -, rfl⟩ := pursuit_cases pursued
      · exact stays.stay
      · exact stays.stay
    obtain ⟨stay, step⟩ := Engine.pursue_stays more first.engine first.run begun
    rw [← left] at stay step
    refine ⟨stay, ?_⟩
    intro suspended gone
    -- A run that is suspended again is at the step that it has made.
    have atStep := step (later.active_iff.mpr suspended)
    omega
  | cancels _ _ left =>
    rw [left]
    exact ⟨Engine.cancel_stays stays.stay, nofun⟩
  | touches unpursued _ touched left =>
    obtain ⟨stay, step⟩ := touched.stays staying stays.stay
    refine ⟨stay, ?_⟩
    rw [left]
    intro suspended gone
    by_cases resets : ∃ start, operation = .reset start
    · obtain ⟨start, rfl⟩ := resets
      obtain ⟨place, -⟩ | ⟨noPlace, same⟩ := s.engine.reset_step start
      · simp [resetBy, place]
      · rw [touched.of_reset, same] at gone
        simp [resetBy, stays.left suspended gone]
    · have other : ∀ start, operation ≠ .reset start := fun start same => resets ⟨start, same⟩
      rw [step other] at gone
      rw [resetBy_touched unpursued other]
      exact stays.left suspended gone

theorem performAll_stays (sound : s.Sound r) (stays : s.Stays reset) (operations : List Operation)
    (staying : ∀ operation ∈ operations, operation.Staying) :
    (s.performAll operations).Stays (s.resetByAll reset operations) := by
  induction operations generalizing s r reset with
  | nil => exact stays
  | cons operation rest ih =>
    refine ih (perform_sound sound operation)
      (perform_stays sound stays (staying operation (by simp))) ?_
    intro other member
    exact staying other (by simp [member])

end Session

/-! ## Results and their steps -/

/-- A new engine under operations in any order. The last result is the one that a run has recorded
last, and a result names a step of its run, or the number of all of them, exactly unless it is that
of a run that was cancelled when the engine was at no step. There it is if it was reset since the
run was last resumed; and if no observer resets, then only so. -/
theorem results_name_steps (setup : Setup) (engine : Engine)
    (created : Engine.create setup = .ok engine) (operations : List Operation) :
    let s := (Session.ofEngine engine).performAll operations
    let reset := (Session.ofEngine engine).resetByAll false operations
    (reset = true → s.engine.currentStep = -1) ∧
    ∀ operation,
      (s.perform operation).2.engine.lastResult =
        (s.recorded? operation).or s.engine.lastResult ∧
      ∀ result, s.recorded? operation = some result →
        let named := 0 ≤ result.step ∧ result.step ≤ (s.perform operation).2.engine.totalSteps
        (named ↔ ¬ (operation = .cancel ∧ s.engine.currentStep = -1)) ∧
        ((∀ earlier ∈ operations, earlier.Staying) →
          (named ↔ ¬ (operation = .cancel ∧ reset = true))) := by
  intro s reset
  have fresh : (Session.ofEngine engine).Sound .blank := Engine.create_idle created
  have sound := Session.performAll_sound fresh operations
  have unset : false = true → (Session.ofEngine engine).engine.currentStep = -1 := nofun
  have left : reset = true → s.engine.currentStep = -1 := Session.performAll_reset unset operations
  refine ⟨left, ?_⟩
  intro operation
  refine ⟨s.perform_result operation, ?_⟩
  intro result recorded named
  have range := sound.recorded_in_range recorded
  refine ⟨range, ?_⟩
  intro staying
  have nobody : (Session.ofEngine engine).Stays false :=
    ⟨by simpa [Session.ofEngine, Engine.create_nobody created] using nofun, nofun⟩
  have stays := Session.performAll_stays fresh nobody operations staying
  have same : operation = .cancel → (s.engine.currentStep = -1 ↔ reset = true) := by
    rintro rfl
    obtain ⟨run, suspended, -⟩ := Option.map_eq_some_iff.mp recorded
    exact ⟨stays.left (by simp [s, suspended]), left⟩
  exact range.trans (not_congr (and_congr_right same))

/-- A program that lifts the pen three times. -/
private def threeLifts : List Command :=
  [⟨.penUp, none, [], 1, 1⟩, ⟨.penUp, none, [], 1, 4⟩, ⟨.penUp, none, [], 1, 7⟩]

/-- A run of three steps that is cancelled after a reset records a step that it does not have. -/
theorem cancelled_after_reset_names_no_step :
    let engine := Engine.placed ⟨400.0, 300.0, 0.0⟩
    let s := (Session.ofEngine engine).performAll [.start threeLifts [], .reset none]
    let after := (s.perform .cancel).2.engine
    after.lastResult = some ⟨.stopped, -1, none⟩ ∧ after.totalSteps = 3 ∧
      ¬ ((0 : Int) ≤ -1 ∧ (-1 : Int) ≤ after.totalSteps) := by
  intro engine s after
  exact ⟨rfl, rfl, by omega⟩

/-- The same run names its first step if it is only asked to stop before it is cancelled. -/
theorem results_name_steps_unless_reset :
    let engine := Engine.placed ⟨400.0, 300.0, 0.0⟩
    let stopped := (Session.ofEngine engine).performAll [.start threeLifts [], .stop]
    let reset := (Session.ofEngine engine).performAll [.start threeLifts [], .reset none]
    Engine.create { start := some ⟨400.0, 300.0, 0.0⟩ } = .ok engine ∧
    (stopped.recorded? .cancel = some ⟨.stopped, 0, none⟩ ∧
      (0 : Int) ≤ 0 ∧ (0 : Int) ≤ (stopped.perform .cancel).2.engine.totalSteps) ∧
    reset.recorded? .cancel = some ⟨.stopped, -1, none⟩ ∧
      ¬ ((0 : Int) ≤ -1 ∧ (-1 : Int) ≤ (reset.perform .cancel).2.engine.totalSteps) := by
  intro engine stopped reset
  have created := Engine.create_placed ⟨400.0, 300.0, 0.0⟩
  have alone : ∀ second : Operation, second.Staying →
      ∀ earlier ∈ [.start threeLifts [], second], earlier.Staying := by
    intro second staying earlier member
    simp only [List.mem_cons, List.not_mem_nil, or_false] at member
    obtain rfl | rfl := member
    · exact trivial
    · exact staying
  have calm := ((results_name_steps _ _ created [.start threeLifts [], .stop]).2 .cancel).2
    ⟨.stopped, 0, none⟩ rfl
  have upset := ((results_name_steps _ _ created [.start threeLifts [], .reset none]).2 .cancel).2
    ⟨.stopped, -1, none⟩ rfl
  refine ⟨created, ⟨rfl, (calm.2 (alone _ trivial)).mpr ?_⟩, rfl, ?_⟩
  · rintro ⟨-, flagged⟩
    cases flagged
  · intro named
    exact (upset.2 (alone _ trivial)).mp named ⟨rfl, rfl⟩

end TurtleScript
