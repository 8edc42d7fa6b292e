import TurtleScript.Proofs.History
import TurtleScript.Proofs.Lifecycle
import TurtleScript.Proofs.Lines
import TurtleScript.Proofs.Meaning

/-!
Programs in sequence. The course of two programs in a row is that of the first and, where nothing
stops it, that of the second from the scene that the first one leaves. An engine that ran the first
to its end is idle again, on the same stage and with observers as silent as before, so it is ready
for the second; and the results of the runs fit together as the courses do.
-/
namespace TurtleScript

/-! ## Courses one after the other -/

theorem Command.flattenAll_append {first second firstSteps secondSteps : List Command}
    (flat : Command.flattenAll first = .ok firstSteps)
    (next : Command.flattenAll second = .ok secondSteps) :
    Command.flattenAll (first ++ second) = .ok (firstSteps ++ secondSteps) := by
  induction first generalizing firstSteps with
  | nil =>
    cases flat
    exact next
  | cons c rest ih =>
    simp only [List.cons_append, Command.flattenAll] at flat ⊢
    cases own : c.flatten with
    | error bad => simp [own] at flat
    | ok steps =>
      cases others : Command.flattenAll rest with
      | error bad => simp [own, others] at flat
      | ok more =>
        simp only [own, others, Except.ok.injEq] at flat
        simp only [ih others, ← flat, List.append_assoc]

namespace Stage

variable {stage : Stage} {scene : Scene}

private theorem applied_made {c : Command} (through : (stage.applied c scene).ending = .through) :
    (stage.applied c scene).made = 1 := by
  unfold applied at through ⊢
  cases found : (stage.engine scene).apply c with
  | error error => simp [found] at through
  | ok result => rfl

/-- A single command that gets through is counted once. -/
private theorem act_made {c : Command} (through : (stage.act c scene).ending = .through) :
    (stage.act c scene).made = 1 := by
  unfold act at through ⊢
  cases moves : c.kind.moves with
  | false =>
    simp only [moves, Bool.false_eq_true, if_false] at through ⊢
    exact applied_made through
  | true =>
    simp only [moves, if_true] at through ⊢
    cases leads : (stage.engine scene).destination c with
    | error error => simp [leads] at through
    | ok p =>
      cases met : findObstacle p stage.obstacles with
      | some hit => simp [leads, met] at through
      | none =>
        simp only [leads, met] at through ⊢
        split at through
        · rename_i inside
          rw [if_pos inside]
          exact applied_made through
        · cases through

theorem actAll_made (stage : Stage) (steps : List Command) (scene : Scene)
    (through : (stage.actAll steps scene).ending = .through) :
    (stage.actAll steps scene).made = steps.length := by
  induction steps generalizing scene with
  | nil => rfl
  | cons c rest ih =>
    simp only [actAll] at through ⊢
    by_cases first : (stage.act c scene).ending = .through
    · rw [Course.andThen_through first] at through ⊢
      rw [List.length_cons, act_made first, ih _ through, Nat.add_comm]
    · rw [Course.andThen_stopped first] at through
      exact absurd through first

private theorem Steers.split {first second : List Command}
    (steers : stage.Steers (first ++ second) scene) :
    stage.Steers first scene ∧ ((stage.actAll first scene).ending = .through →
      stage.Steers second (stage.actAll first scene).scene) := by
  induction first generalizing scene with
  | nil => exact ⟨trivial, fun _ => steers⟩
  | cons c rest ih =>
    obtain ⟨heading, later⟩ := steers
    refine ⟨⟨heading, fun through => (ih (later through)).1⟩, ?_⟩
    simp only [actAll]
    by_cases own : (stage.act c scene).ending = .through
    · rw [Course.andThen_through own]
      exact (ih (later own)).2
    · rw [Course.andThen_stopped own]
      exact fun through => absurd through own

end Stage

/-! ## What a run leaves -/

namespace Engine

/-- The second engine has the stage and the budget of the first one, and its observers are silent
where those of the first one are. -/
structure Keeps (a b : Engine) : Prop where
  stage : ∀ obstacles, b.stage obstacles = a.stage obstacles
  budget : b.budget = a.budget
  silent : ∀ step, a.observers.SilentAt step → b.observers.SilentAt step

variable {a b c e : Engine}

theorem Keeps.trans (first : a.Keeps b) (second : b.Keeps c) : a.Keeps c :=
  ⟨fun obstacles => (second.stage obstacles).trans (first.stage obstacles),
    second.budget.trans first.budget,
    fun step silent => second.silent step (first.silent step silent)⟩

private theorem notify_keeps_silent (silent : e.observers.SilentAt e.currentStep) :
    e.Keeps e.notify.2 := by
  obtain ⟨observers, told, kept⟩ := notify_silent silent
  rw [told]
  exact ⟨fun _ => rfl, rfl, kept⟩

private theorem stepped_keeps (e : Engine) (index : Nat) (effect : Effect) :
    e.Keeps (e.stepped index effect) := by
  cases effect <;> exact ⟨fun _ => rfl, rfl, fun _ silent => silent⟩

/-- A resumption shows observers the end of the run or the step that it makes. -/
private theorem resume_keeps {n : Nat} {run : Run}
    (silent : ∀ step : Int, -1 ≤ step → step < n → e.observers.SilentAt step)
    (whole : run.index + run.rest.length = n) : e.Keeps (e.resume run).2 := by
  rw [resume_eq]
  cases verdict : e.verdict run with
  | ends status hit =>
    have recorded : e.Keeps (e.record status run.index hit).idle :=
      ⟨fun _ => rfl, rfl, fun _ silent => silent⟩
    rw [carryOut, finish_engine]
    exact recorded.trans (notify_keeps_silent (silent (-1) (by omega) (by omega)))
  | breaks error => exact ⟨fun _ => rfl, rfl, fun _ silent => silent⟩
  | commits c effect rest =>
    rw [(verdict_commits verdict).1, List.length_cons] at whole
    have stepped := stepped_keeps e run.index effect
    have step : (e.stepped run.index effect).currentStep = run.index := by simp [Engine.stepped]
    have quiet : (e.stepped run.index effect).observers.SilentAt
        (e.stepped run.index effect).currentStep := by
      rw [step]
      exact stepped.silent _ (silent run.index (by omega) (by omega))
    have told := stepped.trans (notify_keeps_silent quiet)
    rcases commits_engine e run c effect rest with same | idle
    · rwa [same]
    · rw [idle]
      exact told.trans ⟨fun _ => rfl, rfl, fun _ silent => silent⟩

/-- A run that is pursued keeps what every resumption of it keeps. The induction is on how often it
is resumed; the step it is at and the steps that are left always make up the whole program. -/
private theorem pursue_keeps {n : Nat} (more : Nat) (e : Engine) (run : Run)
    (silent : ∀ step : Int, -1 ≤ step → step < n → e.observers.SilentAt step)
    (whole : run.index + run.rest.length = n) : e.Keeps (e.pursue more run).2 := by
  induction more generalizing e run with
  | zero => exact resume_keeps silent whole
  | succ more ih =>
    have first := resume_keeps silent whole
    simp only [pursue]
    cases resumed : e.resume run with
    | mk progress after =>
      rw [resumed] at first
      cases progress with
      | returned | raised => exact first
      | suspended next delay =>
        obtain ⟨c, effect, verdict, shape, -⟩ := resume_suspended resumed
        have taken : run.rest = c :: next.rest := (verdict_commits verdict).1
        have index : next.index = run.index + 1 := by rw [shape]
        rw [taken, List.length_cons] at whole
        have stillSilent : ∀ step : Int, -1 ≤ step → step < n → after.observers.SilentAt step :=
          fun step low high => first.silent step (silent step low high)
        exact first.trans (ih after next stillSilent (by omega))

theorem execute_keeps {commands steps : List Command} (obstacles : List Obstacle)
    (accepted : e.accept commands = .ok steps)
    (silent : ∀ step : Int, -1 ≤ step → step < steps.length → e.observers.SilentAt step) :
    e.Keeps (e.execute commands obstacles).2 := by
  have begun : e.Keeps (e.begin steps) := ⟨fun _ => rfl, rfl, fun _ silent => silent⟩
  have pursued := pursue_keeps steps.length (e.begin steps) ⟨steps, 0, obstacles⟩ silent
    (Nat.zero_add _)
  rw [execute_accepted obstacles accepted, startTimes, start, accepted]
  dsimp only
  rw [drive_pursues]
  exact begun.trans pursued

theorem execute_idle {commands steps : List Command} (obstacles : List Obstacle) {success : Bool}
    (accepted : e.accept commands = .ok steps)
    (ended : (e.execute commands obstacles).1.progress = .returned success) :
    (e.execute commands obstacles).2.Idle := by
  rw [execute_accepted obstacles accepted] at ended ⊢
  have sound := startTimes_sound obstacles steps.length accepted
  rwa [Session.runOf, ended] at sound

/-! ## Runs one after the other -/

/-- An idle engine without a budget can run steps from start to end with nothing happening in
between, and each of them can be done where it comes up. -/
structure Ready (e : Engine) (obstacles : List Obstacle) (steps : List Command) : Prop where
  idle : e.active = false
  unlimited : e.budget = none
  silent : ∀ step : Int, -1 ≤ step → step < steps.length → e.observers.SilentAt step
  fit : ∀ c ∈ steps, c.WellFormed
  steers : (e.stage obstacles).Steers steps e.scene

end Engine

namespace Course

/-- The result of a run that took a course and counted its steps. A course that broke off has
none. -/
def result? (course : Course) : Option RunResult :=
  match course.ending with
  | .through => some ⟨.completed, course.made, none⟩
  | .obstacle hit => some ⟨.obstacle, course.made, some hit⟩
  | .boundary => some ⟨.boundary, course.made, none⟩
  | .broken _ => none

theorem result?_cases {course : Course} {result : RunResult}
    (given : course.result? = some result) :
    course.ending = .through ∧ result.status = .completed ∨
      course.ending ≠ .through ∧ (result.status = .obstacle ∨ result.status = .boundary) := by
  unfold result? at given
  cases ended : course.ending with
  | through =>
    rw [ended] at given
    cases given
    exact .inl ⟨rfl, rfl⟩
  | obstacle hit =>
    rw [ended] at given
    cases given
    exact .inr ⟨nofun, .inl rfl⟩
  | boundary =>
    rw [ended] at given
    cases given
    exact .inr ⟨nofun, .inr rfl⟩
  | broken error => simp [ended] at given

/-- What follows a course that got through has its steps counted on from there. -/
private theorem result?_andThen {first : Course} {next : Scene → Course}
    (through : first.ending = .through) : (first.andThen next).result? =
      (next first.scene).result?.map fun result =>
        ⟨result.status, first.made + result.step, result.obstacle⟩ := by
  rw [andThen_through through]
  unfold result?
  cases (next first.scene).ending <;> rfl

end Course

/-- A run came to its end with a result, and answered whether nothing was in its way. -/
structure EndsWith (run : Stretch × Engine) (result : RunResult) : Prop where
  answer : run.1.progress = .returned result.status.succeeded
  result : run.2.lastResult = some result

namespace Engine

variable {e : Engine} {obstacles : List Obstacle}
  {commands steps firstSteps secondSteps : List Command}

theorem Ready.accepts (ready : e.Ready obstacles steps)
    (flat : Command.flattenAll commands = .ok steps) : e.accept commands = .ok steps :=
  accept_idle ready.idle ready.unlimited flat

/-- The engine shows the scene that the course of the steps leads to, and has its result. -/
theorem Ready.execute (ready : e.Ready obstacles steps)
    (flat : Command.flattenAll commands = .ok steps) :
    (e.execute commands obstacles).2.scene = ((e.stage obstacles).actAll steps e.scene).scene ∧
      ∃ result, ((e.stage obstacles).actAll steps e.scene).result? = some result ∧
        EndsWith (e.execute commands obstacles) result := by
  have reported := execute_course obstacles (ready.accepts flat) flat ready.silent
  have unbroken := Stage.actAll_unbroken steps ready.fit ready.steers
  have made := (e.stage obstacles).actAll_made steps e.scene
  rw [Stage.meaningAll_flatten _ commands steps flat] at reported
  generalize (e.stage obstacles).actAll steps e.scene = course at reported unbroken made ⊢
  obtain ⟨shows, told⟩ := reported
  refine ⟨shows, ?_⟩
  unfold Course.result?
  cases ended : course.ending with
  | broken error => exact absurd ended (unbroken error)
  | through =>
    rw [ended] at told
    exact ⟨_, rfl, told.1, by rw [made ended]; exact told.2⟩
  | obstacle | boundary =>
    rw [ended, Nat.zero_add] at told
    exact ⟨_, rfl, told.1, told.2⟩

theorem Ready.first (ready : e.Ready obstacles (firstSteps ++ secondSteps)) :
    e.Ready obstacles firstSteps where
  idle := ready.idle
  unlimited := ready.unlimited
  silent step low high := ready.silent step low (by rw [List.length_append]; omega)
  fit c member := ready.fit c (List.mem_append_left _ member)
  steers := ready.steers.split.1

/-- A run that got through leaves the engine ready for what comes next. -/
theorem Ready.second (ready : e.Ready obstacles (firstSteps ++ secondSteps))
    (flat : Command.flattenAll commands = .ok firstSteps)
    (through : ((e.stage obstacles).actAll firstSteps e.scene).ending = .through) :
    (e.execute commands obstacles).2.Ready obstacles secondSteps := by
  have accepted := ready.first.accepts flat
  have keeps := execute_keeps obstacles accepted ready.first.silent
  obtain ⟨shows, result, -, ends⟩ := ready.first.execute flat
  refine ⟨(execute_idle obstacles accepted ends.answer).active, ?_, ?_, ?_, ?_⟩
  · rw [keeps.budget, ready.unlimited]
  · intro step low high
    exact keeps.silent step (ready.silent step low (by rw [List.length_append]; omega))
  · exact fun c member => ready.fit c (List.mem_append_right _ member)
  · rw [keeps.stage, shows]
    exact ready.steers.split.2 through

section Joined

variable {first second : List Command} (flat : Command.flattenAll first = .ok firstSteps)
  (next : Command.flattenAll second = .ok secondSteps)
  (ready : e.Ready obstacles (firstSteps ++ secondSteps))

include flat next ready

/-- Where the first program gets through, both as one program come to where the second one comes
after it, and its steps are counted on. -/
private theorem joined_through
    (through : ((e.stage obstacles).actAll firstSteps e.scene).ending = .through) :
    (e.execute (first ++ second) obstacles).2.scene =
        ((e.execute first obstacles).2.execute second obstacles).2.scene ∧
      ∃ last, EndsWith ((e.execute first obstacles).2.execute second obstacles) last ∧
        EndsWith (e.execute (first ++ second) obstacles)
          ⟨last.status, firstSteps.length + last.step, last.obstacle⟩ := by
  obtain ⟨joinedShows, whole, joinedGives, joinedEnds⟩ :=
    ready.execute (Command.flattenAll_append flat next)
  obtain ⟨afterShows, last, afterGives, afterEnds⟩ := (ready.second flat through).execute next
  have keeps := execute_keeps obstacles (ready.first.accepts flat) ready.first.silent
  rw [keeps.stage, (ready.first.execute flat).1] at afterShows afterGives
  rw [Stage.actAll_append, Course.andThen_through through] at joinedShows
  rw [Stage.actAll_append, Course.result?_andThen through, afterGives,
    Stage.actAll_made _ _ _ through] at joinedGives
  cases joinedGives
  exact ⟨joinedShows.trans afterShows.symm, last, afterEnds, joinedEnds⟩

/-- What stops the first program stops both at the same step. -/
private theorem joined_stopped {result : RunResult}
    (stopped : ((e.stage obstacles).actAll firstSteps e.scene).ending ≠ .through)
    (gives : ((e.stage obstacles).actAll firstSteps e.scene).result? = some result) :
    (e.execute (first ++ second) obstacles).2.scene = (e.execute first obstacles).2.scene ∧
      EndsWith (e.execute (first ++ second) obstacles) result := by
  obtain ⟨shows, whole, joinedGives, joinedEnds⟩ :=
    ready.execute (Command.flattenAll_append flat next)
  rw [Stage.actAll_append, Course.andThen_stopped stopped] at shows joinedGives
  cases gives.symm.trans joinedGives
  exact ⟨shows.trans (ready.first.execute flat).1.symm, joinedEnds⟩

end Joined

end Engine

/-! ## In sequence -/

/-- Two programs in sequence are one program. An idle engine runs the first one to its end, with
nothing happening in between. If it completes, running the second one after it leaves the turtle and
the drawing that both leave as one program, with the same answer, status and obstacle, and the steps
of the second are counted on from the first. If an obstacle or the edge is in the way of the first
one, it stops both at the same step. And texts that are programs, one put under the other, are the
program with the commands of both, those of the lower text as many lines further down as there are
lines above it. -/
theorem programs_in_sequence :
    (∀ (e : Engine) (obstacles : List Obstacle)
      (first second firstSteps secondSteps : List Command),
      Command.flattenAll first = .ok firstSteps → Command.flattenAll second = .ok secondSteps →
      e.Ready obstacles (firstSteps ++ secondSteps) →
      let alone := e.execute first obstacles
      let after := alone.2.execute second obstacles
      let joined := e.execute (first ++ second) obstacles
      ∃ result, EndsWith alone result ∧
        (result.status = .completed →
          joined.2.turtle = after.2.turtle ∧ joined.2.drawing = after.2.drawing ∧
            ∃ last, EndsWith after last ∧
              EndsWith joined ⟨last.status, firstSteps.length + last.step, last.obstacle⟩) ∧
        (result.status ≠ .completed →
          (result.status = .obstacle ∨ result.status = .boundary) ∧
            joined.2.turtle = alone.2.turtle ∧ joined.2.drawing = alone.2.drawing ∧
            EndsWith joined result)) ∧
    ∀ (keywords : Keywords) (above below : String),
      (readProgram keywords above).errors = [] → (readProgram keywords below).errors = [] →
      readProgram keywords (above ++ "\n" ++ below) =
        ⟨(readProgram keywords above).commands ++
          Command.relocateAll (Place.down (linesAbove above)) (readProgram keywords below).commands,
          []⟩ := by
  refine ⟨?_, fun keywords above below => readProgram_under⟩
  intro e obstacles first second firstSteps secondSteps flat next ready alone after joined
  obtain ⟨-, result, gives, ends⟩ := ready.first.execute flat
  refine ⟨result, ends, ?_⟩
  obtain ⟨through, completed⟩ | ⟨stopped, reason⟩ := Course.result?_cases gives
  · obtain ⟨same, last, afterEnds, joinedEnds⟩ := Engine.joined_through flat next ready through
    refine ⟨fun _ => ?_, fun other => absurd completed other⟩
    exact ⟨congrArg Scene.turtle same, congrArg Scene.log same, last, afterEnds, joinedEnds⟩
  · obtain ⟨same, joinedEnds⟩ := Engine.joined_stopped flat next ready stopped gives
    refine ⟨fun completed => ?_, fun _ => ?_⟩
    · rw [completed] at reason
      cases reason <;> contradiction
    · exact ⟨reason, congrArg Scene.turtle same, congrArg Scene.log same, joinedEnds⟩

private def spin : Command :=
  ⟨.repetition, some (.whole 2), [⟨.penUp, none, [], 1, 10⟩, ⟨.left, some (.real 90.0), [], 1, 13⟩],
    1, 1⟩

private def spinSteps : List Command :=
  [⟨.penUp, none, [], 1, 10⟩, ⟨.left, some (.real 90.0), [], 1, 13⟩,
    ⟨.penUp, none, [], 1, 10⟩, ⟨.left, some (.real 90.0), [], 1, 13⟩]

private def stride : Command := ⟨.forward, some (.real 10.0), [], 1, 1⟩

private def inTheMiddle : Engine := .placed ⟨400.0, 300.0, 0.0⟩

private theorem inTheMiddle_ready : inTheMiddle.Ready [] (spinSteps ++ [stride]) where
  idle := rfl
  unlimited := rfl
  silent _ _ _ _ := nofun
  fit c member := by
    simp only [spinSteps, List.cons_append, List.nil_append, List.mem_cons, List.not_mem_nil,
      or_false] at member
    obtain rfl | rfl | rfl | rfl | rfl := member
    · exact trivial
    · exact ⟨_, _, rfl, rfl⟩
    · exact trivial
    · exact ⟨_, _, rfl, rfl⟩
    · exact ⟨_, _, rfl, rfl⟩
  steers := ⟨nofun, fun _ => ⟨nofun, fun _ => ⟨nofun, fun _ => ⟨nofun, fun _ =>
    ⟨fun _ => by decide +kernel, fun _ => trivial⟩⟩⟩⟩⟩

/-- A turtle that turns twice and then walks, in two programs and in one; and two texts of which
the upper one ends in a comment. -/
theorem turn_and_walk_in_sequence :
    let alone := inTheMiddle.execute [spin] []
    let after := alone.2.execute [stride] []
    let joined := inTheMiddle.execute ([spin] ++ [stride]) []
    EndsWith alone ⟨.completed, 4, none⟩ ∧ joined.2.turtle = after.2.turtle ∧
      joined.2.drawing = after.2.drawing ∧
      (∃ last, EndsWith after last ∧ EndsWith joined ⟨last.status, 4 + last.step, last.obstacle⟩) ∧
      readProgram .standard ("repeat 2 [pu lt 90] # turned" ++ "\n" ++ "fd 10") =
        ⟨(readProgram .standard "repeat 2 [pu lt 90] # turned").commands ++
          Command.relocateAll (Place.down 1) (readProgram .standard "fd 10").commands, []⟩ := by
  obtain ⟨runs, reads⟩ := programs_in_sequence
  obtain ⟨result, ends, completes, -⟩ :=
    runs inTheMiddle [] [spin] [stride] spinSteps [stride] rfl rfl inTheMiddle_ready
  have clean : (readProgram .standard "repeat 2 [pu lt 90] # turned").errors = [] := by
    decide +kernel
  have cleanBelow : (readProgram .standard "fd 10").errors = [] := by decide +kernel
  have recorded : (inTheMiddle.execute [spin] []).2.lastResult = some ⟨.completed, 4, none⟩ := rfl
  cases ends.result.symm.trans recorded
  obtain ⟨turtle, drawing, continued⟩ := completes rfl
  exact ⟨ends, turtle, drawing, continued, reads _ _ _ clean cleanBelow⟩

end TurtleScript
