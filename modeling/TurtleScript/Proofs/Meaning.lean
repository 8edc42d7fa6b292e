import TurtleScript.Proofs.Resumption

/-!
The meaning of a command tree, by its structure. A repetition runs its body as often as it says,
and a movement into an obstacle or off the canvas stops everything, from any depth. Nothing here is
flattened or suspended and no step has a number; an engine that runs the program step by step comes
to the same scene, the same answer and the same result.
-/
namespace TurtleScript

/-! ## Scenes and courses -/

/-- What a program works on: the turtle and the drawing. -/
structure Scene where
  turtle : Turtle
  log : List Instruction

/-- What stays the same while a program runs: the canvas, the colors that it chooses from, and the
obstacles in its way. -/
structure Stage where
  width : Number
  height : Number
  palette : Palette
  obstacles : List Obstacle

/-- How the course of a program ends. -/
inductive Ending where
  /-- All of it was done. -/
  | through
  /-- A movement would have ended in an obstacle, and this is the first one. -/
  | obstacle (hit : Obstacle)
  /-- A movement would have left the canvas. -/
  | boundary
  /-- A command could not be done at all. -/
  | broken (error : EngineError)

/-- The course of a program: the scene it leaves, the number of single commands that were done, and
how it ends. -/
structure Course where
  scene : Scene
  made : Nat
  ending : Ending

namespace Course

/-- Nothing is done. -/
def still (scene : Scene) : Course := ⟨scene, 0, .through⟩

/-- One course after another; what stops the first stops both. -/
def andThen (first : Course) (next : Scene → Course) : Course :=
  match first.ending with
  | .through => { next first.scene with made := first.made + (next first.scene).made }
  | _ => first

/-- The same course so many times in sequence. -/
def times (course : Scene → Course) : Nat → Scene → Course
  | 0, scene => still scene
  | more + 1, scene => (course scene).andThen (times course more)

end Course

/-- The scene in front of an engine. -/
def Engine.scene (e : Engine) : Scene := ⟨e.turtle, e.drawing⟩

/-- The stage of an engine with obstacles. -/
def Engine.stage (e : Engine) (obstacles : List Obstacle) : Stage :=
  ⟨e.width, e.height, e.palette, obstacles⟩

namespace Stage

/-- A new engine on a stage with a scene in front of it. -/
def engine (stage : Stage) (scene : Scene) : Engine :=
  { width := stage.width
    height := stage.height
    palette := stage.palette
    budget := none
    speed := defaultSpeed
    turtle := scene.turtle
    penChoices := 0
    drawings := ⟨#[], scene.log.toArray⟩
    running := false
    active := false
    currentStep := -1
    totalSteps := 0
    lastResult := none
    observers := .nobody }

/-- A single command is applied to the scene. -/
def applied (stage : Stage) (c : Command) (scene : Scene) : Course :=
  match (stage.engine scene).apply c with
  | .error error => ⟨scene, 0, .broken error⟩
  | .ok (_, after) => ⟨after.scene, 1, .through⟩

/-- What a single command does. A movement stops at the first obstacle around its destination, else
at the edge of the canvas, and leaves the scene as it is then. -/
def act (stage : Stage) (c : Command) (scene : Scene) : Course :=
  if c.kind.moves then
    match (stage.engine scene).destination c with
    | .error error => ⟨scene, 0, .broken error⟩
    | .ok p =>
      match findObstacle p stage.obstacles with
      | some hit => ⟨scene, 0, .obstacle hit⟩
      | none =>
        if (stage.engine scene).within p then stage.applied c scene else ⟨scene, 0, .boundary⟩
  else stage.applied c scene

mutual

/-- The meaning of a command: a repetition does what its body means, as often as its value says. -/
def meaning (stage : Stage) : Command → Scene → Course
  | ⟨kind, value, body, line, column⟩ =>
    if kind = .repetition then
      match value with
      | some (.whole count) => .times (stage.meaningAll body) count.toNat
      | _ => .still
    else stage.act ⟨kind, value, body, line, column⟩

/-- The meaning of commands one after the other. -/
def meaningAll (stage : Stage) : List Command → Scene → Course
  | [] => .still
  | c :: rest => fun scene => (stage.meaning c scene).andThen (stage.meaningAll rest)

end

end Stage

/-! ## Flattening keeps the meaning -/

namespace Course

theorem still_andThen (scene : Scene) (next : Scene → Course) :
    (still scene).andThen next = next scene := by
  simp [still, andThen]

theorem andThen_still (course : Course) : course.andThen still = course := by
  obtain ⟨scene, made, ending⟩ := course
  cases ending <;> rfl

theorem andThen_through {first : Course} {next : Scene → Course}
    (through : first.ending = .through) : first.andThen next =
      { next first.scene with made := first.made + (next first.scene).made } := by
  simp only [andThen, through]

theorem andThen_stopped {first : Course} {next : Scene → Course}
    (stopped : first.ending ≠ .through) : first.andThen next = first := by
  unfold andThen
  split
  · rename_i through
    exact absurd through stopped
  · rfl

theorem andThen_assoc (first : Course) (second third : Scene → Course) :
    (first.andThen second).andThen third =
      first.andThen fun scene => (second scene).andThen third := by
  obtain ⟨scene, made, ending⟩ := first
  cases ending with
  | through =>
    simp only [andThen]
    cases stopped : (second scene).ending <;> simp [stopped, Nat.add_assoc]
  | _ => rfl

end Course

namespace Stage

variable (stage : Stage)

/-- What single commands do one after the other. -/
def actAll : List Command → Scene → Course
  | [] => .still
  | c :: rest => fun scene => (stage.act c scene).andThen (actAll rest)

theorem actAll_append (first second : List Command) (scene : Scene) :
    stage.actAll (first ++ second) scene =
      (stage.actAll first scene).andThen (stage.actAll second) := by
  induction first generalizing scene with
  | nil => exact (Course.still_andThen scene _).symm
  | cons c rest ih =>
    simp only [List.cons_append, actAll, Course.andThen_assoc]
    congr 1
    funext scene
    exact ih scene

/-- One more command, where those before it went through. -/
theorem actAll_snoc {done : List Command} {c : Command} {scene middle final : Scene} {made : Nat}
    (before : stage.actAll done scene = ⟨middle, made, .through⟩)
    (last : stage.act c middle = ⟨final, 1, .through⟩) :
    stage.actAll (done ++ [c]) scene = ⟨final, made + 1, .through⟩ := by
  rw [actAll_append, Course.andThen_through (by rw [before]), before]
  simp only [actAll, Course.andThen_still, last]

private theorem actAll_replicate (steps : List Command) (count : Nat) (scene : Scene) :
    stage.actAll (List.replicate count steps).flatten scene =
      Course.times (stage.actAll steps) count scene := by
  induction count generalizing scene with
  | zero => rfl
  | succ count ih =>
    simp only [List.replicate_succ, List.flatten_cons, actAll_append, Course.times]
    congr 1
    funext scene
    exact ih scene

private theorem repeatCount?_eq_some {value : Option Number} {body : List Command} {count : Nat}
    (counted : Command.repeatCount? value body = some count) :
    ∃ whole, value = some (.whole whole) ∧ count = whole.toNat := by
  unfold Command.repeatCount? at counted
  split at counted
  · split at counted
    · cases counted
      exact ⟨_, rfl, rfl⟩
    · cases counted
  · cases counted

mutual

/-- A command means what its steps do. The induction is on the tree; that of a repetition on how
often it runs is in the lemma on copies. -/
private theorem meaning_flatten : (c : Command) → (steps : List Command) →
    c.flatten = .ok steps → stage.meaning c = stage.actAll steps
  | ⟨kind, value, body, line, column⟩, steps, flat => by
    unfold Command.flatten at flat
    split at flat
    · rename_i repetition
      split at flat
      · cases flat
      · rename_i count counted
        split at flat
        · cases flat
        · rename_i inside bodyFlat
          cases flat
          obtain ⟨whole, rfl, rfl⟩ := repeatCount?_eq_some counted
          funext scene
          rw [actAll_replicate, ← meaningAll_flatten body inside bodyFlat]
          simp [meaning, repetition]
    · rename_i primitive
      cases flat
      funext scene
      simp only [meaning, if_neg primitive, actAll]
      exact (Course.andThen_still _).symm

/-- Commands mean what their steps do. -/
theorem meaningAll_flatten : (commands steps : List Command) →
    Command.flattenAll commands = .ok steps → stage.meaningAll commands = stage.actAll steps
  | [], steps, flat => by
    cases flat
    rfl
  | c :: rest, steps, flat => by
    simp only [Command.flattenAll] at flat
    split at flat
    · cases flat
    · rename_i first firstFlat
      split at flat
      · cases flat
      · rename_i others restFlat
        cases flat
        funext scene
        rw [actAll_append, ← meaning_flatten c first firstFlat,
          ← meaningAll_flatten rest others restFlat]
        rfl

end

end Stage

/-! ## One step of an engine -/

namespace Engine

variable {e : Engine} {obstacles : List Obstacle}

/-- The drawing that an effect leaves depends on the scene alone. -/
private theorem scene_commit (e : Engine) (obstacles : List Obstacle) (effect : Effect) :
    (((e.stage obstacles).engine e.scene).commit effect).scene = (e.commit effect).scene := by
  cases effect <;> rfl

private theorem applied_eq (c : Command) : (e.stage obstacles).applied c e.scene =
    match e.effect c with
    | .error error => ⟨e.scene, 0, .broken error⟩
    | .ok effect => ⟨(e.commit effect).scene, 1, .through⟩ := by
  have same : ((e.stage obstacles).engine e.scene).effect c = e.effect c := rfl
  unfold Stage.applied apply
  rw [same]
  cases e.effect c with
  | error error => rfl
  | ok effect => simp only [scene_commit]

/-- A movement leads on if its destination is on the canvas, and is blocked else. -/
private theorem effect_of_moves {c : Command} (moves : c.kind.moves = true) :
    e.effect c = match e.destination c with
      | .error error => .error error
      | .ok p => .ok (if e.within p then .move p else .blocked) := by
  unfold effect
  cases kind : c.kind with
  | forward | back => rfl
  | _ => simp [kind, Kind.moves] at moves

/-- What a verdict says about the course of the command that a run comes to. -/
def VerdictTells (e : Engine) (c : Command) (rest : List Command) (course : Course) :
    Verdict → Prop
  | .commits next effect left =>
    next = c ∧ left = rest ∧ course = ⟨(e.commit effect).scene, 1, .through⟩
  | .ends status hit =>
    status = .boundary ∧ hit = none ∧ course = ⟨e.scene, 0, .boundary⟩ ∨
      ∃ met, status = .obstacle ∧ hit = some met ∧ course = ⟨e.scene, 0, .obstacle met⟩
  | .breaks error => course = ⟨e.scene, 0, .broken error⟩

/-- The verdict on a run that goes on tells the course of its next command. -/
theorem verdict_tells (obstacles : List Obstacle) (running : e.running = true)
    (c : Command) (rest : List Command) (index : Nat) :
    VerdictTells e c rest ((e.stage obstacles).act c e.scene)
      (e.verdict ⟨c :: rest, index, obstacles⟩) := by
  have leads : ((e.stage obstacles).engine e.scene).destination c = e.destination c := rfl
  have inside : ∀ p, ((e.stage obstacles).engine e.scene).within p = e.within p := fun _ => rfl
  have around : (e.stage obstacles).obstacles = obstacles := rfl
  simp only [Engine.verdict, running, if_true, obstacleAhead, Stage.act, leads, inside, around,
    applied_eq]
  cases moves : c.kind.moves with
  | true =>
    rw [effect_of_moves moves]
    cases e.destination c with
    | error error => exact rfl
    | ok p =>
      cases met : findObstacle p obstacles with
      | some hit =>
        simp only [if_true, Except.map, met]
        exact .inr ⟨hit, rfl, rfl, rfl⟩
      | none =>
        cases canvas : e.within p with
        | true =>
          simp only [if_true, Except.map, met, canvas]
          exact ⟨rfl, rfl, rfl⟩
        | false =>
          simp only [if_true, Except.map, met, canvas, Bool.false_eq_true, if_false]
          exact .inl ⟨rfl, rfl, rfl⟩
  | false =>
    cases found : e.effect c with
    | error error => exact rfl
    | ok effect =>
      cases effect with
      | blocked =>
        have blocked := (effect_blocked found).1
        rw [moves] at blocked
        cases blocked
      | _ => exact ⟨rfl, rfl, rfl⟩

/-- A command that is committed does what it does on the stage. -/
theorem act_of_commits {run : Run} {c : Command} {effect : Effect} {rest : List Command}
    (verdict : e.verdict run = .commits c effect rest) :
    (e.stage run.obstacles).act c e.scene =
      ⟨(e.stepped run.index effect).scene, 1, .through⟩ := by
  obtain ⟨left, running, -, -, -⟩ := verdict_commits verdict
  have scene : (e.stepped run.index effect).scene = (e.commit effect).scene := by
    cases effect <;> rfl
  have tells := verdict_tells run.obstacles running c rest run.index
  rw [← left, verdict] at tells
  rw [scene]
  exact tells.2.2

end Engine

/-! ## Runs -/

/-- How a run that took a course is reported: the engine shows the scene, the answer says whether
nothing stopped it, and the result counts from the number of its first step. A run that broke
leaves the result of the run before it. -/
def Course.Reported (course : Course) (first total : Nat) (before : Option RunResult)
    (progress : Progress) (after : Engine) : Prop :=
  after.scene = course.scene ∧
  match course.ending with
  | .through => progress = .returned true ∧ after.lastResult = some ⟨.completed, total, none⟩
  | .obstacle hit =>
    progress = .returned false ∧
      after.lastResult = some ⟨.obstacle, Int.ofNat (first + course.made), some hit⟩
  | .boundary =>
    progress = .returned false ∧
      after.lastResult = some ⟨.boundary, Int.ofNat (first + course.made), none⟩
  | .broken error => progress = .raised error ∧ after.lastResult = before

/-- A report counted from the step after a single command is one counted from that command. -/
private theorem Course.Reported.shift {course : Course} {first total : Nat}
    {before : Option RunResult} {progress : Progress} {after : Engine}
    (reported : course.Reported (first + 1) total before progress after) :
    { course with made := 1 + course.made }.Reported first total before progress after := by
  obtain ⟨scene, made, ending⟩ := course
  have count : first + 1 + made = first + (1 + made) := Nat.add_assoc first 1 made
  cases ending with
  | through | broken => exact reported
  | obstacle | boundary =>
    simp only [Course.Reported] at reported ⊢
    rw [← count]
    exact reported

namespace Engine

variable {obstacles : List Obstacle}

private theorem finish_silent {e : Engine} (silent : e.observers.SilentAt (-1)) (status : Status)
    (step : Nat) (hit : Option Obstacle) :
    ∃ observers, e.finish status step hit =
      (.returned status.succeeded, { (e.record status step hit).idle with observers }) := by
  have quiet : (e.record status step hit).idle.observers.SilentAt
      (e.record status step hit).idle.currentStep := silent
  obtain ⟨observers, told, -⟩ := notify_silent quiet
  exact ⟨observers, by simp [finish, told]⟩

private theorem drive_returned (count : Nat) (success : Bool) (sleeps : Nat)
    (delay : Option Float) (e : Engine) :
    drive count ⟨.returned success, sleeps, delay⟩ e = (⟨.returned success, sleeps, delay⟩, e) := by
  cases count <;> rfl

private theorem drive_raised (count : Nat) (error : EngineError) (sleeps : Nat)
    (delay : Option Float) (e : Engine) :
    drive count ⟨.raised error, sleeps, delay⟩ e = (⟨.raised error, sleeps, delay⟩, e) := by
  cases count <;> rfl

/-- A run that is resumed to its end among silent observers takes the course of its commands. The
induction is on the commands that are left; every one of them costs one resumption. -/
private theorem resumed_course {n : Nat} {o : List Obstacle} (rest : List Command) (e : Engine)
    (index count sleeps : Nat) (delay : Option Float) (running : e.running = true)
    (silent : ∀ step : Int, -1 ≤ step → step < n → e.observers.SilentAt step)
    (enough : rest.length ≤ count) (whole : index + rest.length = n) :
    let resumed := e.resume ⟨rest, index, o⟩
    let driven := drive count ⟨resumed.1, sleeps, delay⟩ resumed.2
    ((e.stage o).actAll rest e.scene).Reported index n e.lastResult driven.1.progress
      driven.2 := by
  have ending : e.observers.SilentAt (-1) := silent (-1) (by omega) (by omega)
  induction rest generalizing e index count sleeps delay with
  | nil =>
    obtain ⟨observers, finished⟩ := finish_silent ending .completed index none
    have verdict : e.verdict ⟨[], index, o⟩ = .ends .completed none := by
      simp [Engine.verdict, running]
    rw [resume_eq, verdict]
    simp only [carryOut, finished, drive_returned]
    exact ⟨rfl, rfl, by rw [← whole]; rfl⟩
  | cons c rest ih =>
    have tells := verdict_tells o running c rest index
    rw [resume_eq]
    simp only [Stage.actAll]
    cases verdict : e.verdict ⟨c :: rest, index, o⟩ with
    | ends status hit =>
      rw [verdict] at tells
      obtain ⟨observers, finished⟩ := finish_silent ending status index hit
      simp only [carryOut, finished, drive_returned]
      obtain ⟨rfl, rfl, course⟩ | ⟨met, rfl, rfl, course⟩ := tells
      · rw [course]
        exact ⟨rfl, rfl, rfl⟩
      · rw [course]
        exact ⟨rfl, rfl, rfl⟩
    | breaks error =>
      rw [verdict] at tells
      simp only [carryOut, fail, drive_raised]
      rw [show _ = _ from tells]
      exact ⟨rfl, rfl, rfl⟩
    | commits next effect left =>
      rw [verdict] at tells
      obtain ⟨rfl, rfl, course⟩ := tells
      simp only [List.length_cons] at enough whole
      have quiet : (e.stepped index effect).observers.SilentAt
          (e.stepped index effect).currentStep := by
        simpa [stepped] using silent index (by omega) (by omega)
      obtain ⟨observers, told, kept⟩ := notify_silent quiet
      have stillSilent : ∀ step : Int, -1 ≤ step → step < n → observers.SilentAt step :=
        fun step low high => kept step (by simpa [stepped] using silent step low high)
      obtain ⟨more, rfl⟩ : ∃ more, count = more + 1 := ⟨count - 1, by omega⟩
      have later := ih { e.stepped index effect with observers } (index + 1) more (sleeps + 1)
        (some { e.stepped index effect with observers }.stepDelay)
        (by simpa [stepped] using running) stillSilent (by omega) (by omega)
        (stillSilent (-1) (by omega) (by omega))
      have sameStage : { e.stepped index effect with observers }.stage o =
          e.stage o := by cases effect <;> rfl
      have sameScene : { e.stepped index effect with observers }.scene =
          (e.commit effect).scene := by cases effect <;> rfl
      have sameResult : { e.stepped index effect with observers }.lastResult = e.lastResult := by
        simp [stepped]
      rw [sameStage, sameScene, sameResult] at later
      simp only [carryOut, told, drive]
      rw [course]
      exact Course.Reported.shift later

/-- An idle engine without a budget accepts every program that can be flattened. -/
theorem accept_idle {e : Engine} {commands steps : List Command} (idle : e.active = false)
    (unlimited : e.budget = none) (flat : Command.flattenAll commands = .ok steps) :
    e.accept commands = .ok steps := by
  simp only [accept, idle, checkBudget, unlimited, Bool.false_eq_true, if_false]
  exact flatten_ok_iff.mpr flat

/-- A program that is run from start to end among silent observers takes the course that it means,
also where a command cannot be done. -/
theorem execute_course {e : Engine} {commands steps : List Command} (obstacles : List Obstacle)
    (accepted : e.accept commands = .ok steps)
    (flat : Command.flattenAll commands = .ok steps)
    (silent : ∀ step : Int, -1 ≤ step → step < steps.length → e.observers.SilentAt step) :
    ((e.stage obstacles).meaningAll commands e.scene).Reported 0 steps.length e.lastResult
      (e.execute commands obstacles).1.progress (e.execute commands obstacles).2 := by
  have course := resumed_course (n := steps.length) (o := obstacles) steps (e.begin steps) 0
    steps.length 0 none rfl silent (Nat.le_refl _) (Nat.zero_add _)
  have started : e.start commands obstacles = (e.begin steps).resume ⟨steps, 0, obstacles⟩ := by
    simp [start, accepted]
  rw [(e.stage obstacles).meaningAll_flatten commands steps flat]
  unfold execute
  simp only [started]
  cases resumed : (e.begin steps).resume ⟨steps, 0, obstacles⟩ with
  | mk progress after =>
    rw [resumed] at course
    change ((e.stage obstacles).actAll steps e.scene).Reported 0 steps.length e.lastResult _ _
      at course
    cases progress with
    | returned success => simpa only [drive_returned] using course
    | raised error => simpa only [drive_raised] using course
    | suspended next delay =>
      obtain ⟨c, effect, verdict, -, -⟩ := resume_suspended resumed
      have left : steps = c :: next.rest := (verdict_commits verdict).1
      have count : steps.length = next.rest.length + 1 := by simp [left]
      rw [count] at course ⊢
      exact course

end Engine

/-! ## Well-formed programs -/

/-- A single command has the value it needs: a number that can be measured in double precision, or
that has a whole part where it chooses a color. -/
def Command.WellFormed (c : Command) : Prop :=
  match c.kind with
  | .forward | .left | .right => ∃ value x, c.value = some value ∧ value.toFloat = .ok x
  | .back => ∃ value x, c.value = some value ∧ value.neg.toFloat = .ok x
  | .color => ∃ value whole, c.value = some value ∧ value.floor = .ok whole
  | .penUp | .penDown | .clear => True
  | .repetition | .other _ => False

/-- Every heading at which a movement is made has a sine, as far as the commands are done. -/
def Stage.Steers (stage : Stage) : List Command → Scene → Prop
  | [], _ => True
  | c :: rest, scene =>
    (c.kind.moves = true → (radians scene.turtle.pose.angle).isInf = false) ∧
      ((stage.act c scene).ending = .through → stage.Steers rest (stage.act c scene).scene)

namespace Stage

variable {stage : Stage} {c : Command} {scene : Scene}

/-- A well-formed movement at a heading with a sine leads somewhere. -/
private theorem destination_ok (fit : c.WellFormed) (moves : c.kind.moves = true)
    (heading : (radians scene.turtle.pose.angle).isInf = false) :
    ∃ p, (stage.engine scene).destination c = .ok p := by
  unfold Command.WellFormed at fit
  cases kind : c.kind with
  | forward | back =>
    simp only [kind] at fit
    obtain ⟨value, x, given, measured⟩ := fit
    simp [Engine.destination, given, kind, engine, heading, measured]
  | _ => simp [kind, Kind.moves] at moves

/-- A well-formed command can be done, unless it is a movement without a destination. -/
private theorem applied_unbroken (fit : c.WellFormed)
    (leads : c.kind.moves = true → ∃ p, (stage.engine scene).destination c = .ok p)
    (error : EngineError) : (stage.applied c scene).ending ≠ .broken error := by
  have found : ∃ effect, (stage.engine scene).effect c = .ok effect := by
    unfold Command.WellFormed at fit
    unfold Engine.effect
    cases kind : c.kind with
    | forward | back =>
      obtain ⟨p, ends⟩ := leads (by simp [kind, Kind.moves])
      simp [ends]
    | left | right =>
      simp only [kind] at fit
      obtain ⟨value, x, given, measured⟩ := fit
      simp [Engine.turnEffect, given, measured]
    | color =>
      simp only [kind] at fit
      obtain ⟨value, whole, given, floored⟩ := fit
      simp [given, Palette.color, floored]
    | penUp | penDown | clear => exact ⟨_, rfl⟩
    | repetition | other => simp [kind] at fit
  obtain ⟨effect, found⟩ := found
  simp [applied, Engine.apply, found]

private theorem act_unbroken (fit : c.WellFormed)
    (heading : c.kind.moves = true → (radians scene.turtle.pose.angle).isInf = false)
    (error : EngineError) : (stage.act c scene).ending ≠ .broken error := by
  have leads : c.kind.moves = true → ∃ p, (stage.engine scene).destination c = .ok p :=
    fun moves => destination_ok fit moves (heading moves)
  unfold act
  cases moves : c.kind.moves with
  | false => exact applied_unbroken fit leads error
  | true =>
    obtain ⟨p, ends⟩ := leads moves
    simp only [if_true, ends]
    cases findObstacle p stage.obstacles with
    | some hit => exact nofun
    | none =>
      dsimp only
      split
      · exact applied_unbroken fit leads error
      · exact nofun

/-- Well-formed commands never break off. -/
theorem actAll_unbroken (steps : List Command) (fit : ∀ c ∈ steps, c.WellFormed)
    (steers : stage.Steers steps scene) (error : EngineError) :
    (stage.actAll steps scene).ending ≠ .broken error := by
  induction steps generalizing scene with
  | nil => exact nofun
  | cons c rest ih =>
    have first : (stage.act c scene).ending ≠ .broken error :=
      act_unbroken (fit c (by simp)) steers.1 error
    simp only [actAll]
    by_cases through : (stage.act c scene).ending = .through
    · rw [Course.andThen_through through]
      exact ih (fun next member => fit next (by simp [member])) (steers.2 through)
    · rw [Course.andThen_stopped through]
      exact first

end Stage

/-! ## A run means its tree -/

/-- An idle engine without a budget that runs a program of well-formed commands to its end, with
nothing happening in between, shows the scene that the tree of the program means. The run answers
whether nothing stopped it, and its result is that it completed all its steps, or the obstacle or
the edge that stopped it after the number of single commands that the tree had done by then. -/
theorem execute_means_tree (e : Engine) (commands steps : List Command)
    (obstacles : List Obstacle) (idle : e.active = false) (unlimited : e.budget = none)
    (flat : Command.flattenAll commands = .ok steps)
    (silent : ∀ step : Int, -1 ≤ step → step < steps.length → e.observers.SilentAt step)
    (fit : ∀ c ∈ steps, c.WellFormed) (steers : (e.stage obstacles).Steers steps e.scene) :
    let course := (e.stage obstacles).meaningAll commands e.scene
    let progress := (e.execute commands obstacles).1.progress
    let after := (e.execute commands obstacles).2
    after.turtle = course.scene.turtle ∧ after.drawing = course.scene.log ∧
      match course.ending with
      | .through =>
        progress = .returned true ∧ after.lastResult = some ⟨.completed, steps.length, none⟩
      | .obstacle hit =>
        progress = .returned false ∧ after.lastResult = some ⟨.obstacle, course.made, some hit⟩
      | .boundary =>
        progress = .returned false ∧ after.lastResult = some ⟨.boundary, course.made, none⟩
      | .broken _ => False := by
  intro course progress after
  have accepted := Engine.accept_idle idle unlimited flat
  have reported := Engine.execute_course obstacles accepted flat silent
  have unbroken := fun error => Stage.actAll_unbroken steps fit steers error
  rw [← Stage.meaningAll_flatten _ commands steps flat] at unbroken
  obtain ⟨shows, told⟩ := reported
  refine ⟨congrArg Scene.turtle shows, congrArg Scene.log shows, ?_⟩
  rw [Nat.zero_add] at told
  cases ended : course.ending with
  | broken error => exact unbroken error ended
  | _ =>
    rw [show ((e.stage obstacles).meaningAll commands e.scene).ending = _ from ended] at told
    exact told

/-- A new engine with the turtle in the middle. -/
private def middleEngine : Engine :=
  Stage.engine ⟨.whole 800, .whole 600, .standard, []⟩ ⟨.fresh ⟨400.0, 300.0, 0.0⟩ "#00FF00", []⟩

private def liftPen : Command := ⟨.penUp, none, [], 1, 12⟩

private def quarterTurn : Command := ⟨.left, some (.real 90.0), [], 1, 15⟩

private def tenForward : Command := ⟨.forward, some (.real 10.0), [], 1, 23⟩

/-- Two quarter turns with the pen up, and then a movement. -/
private def turningProgram : List Command :=
  [⟨.repetition, some (.whole 2), [liftPen, quarterTurn], 1, 1⟩, tenForward]

private def turningSteps : List Command :=
  [liftPen, quarterTurn, liftPen, quarterTurn, tenForward]

private theorem turningSteps_fit : ∀ c ∈ turningSteps, c.WellFormed := by
  intro c member
  simp only [turningSteps, List.mem_cons, List.not_mem_nil, or_false] at member
  obtain rfl | rfl | rfl | rfl | rfl := member
  · exact trivial
  · exact ⟨_, _, rfl, rfl⟩
  · exact trivial
  · exact ⟨_, _, rfl, rfl⟩
  · exact ⟨_, _, rfl, rfl⟩

private def cornerWall : List Obstacle := [⟨0.0, 0.0, 10.0, 10.0, .wall⟩]

/-- A repetition followed by a movement, with a wall in a corner: the turtle has turned twice when
it moves, and the five steps are done or the movement is refused as the fifth. -/
theorem execute_means_turning :
    let course := (middleEngine.stage cornerWall).meaningAll turningProgram middleEngine.scene
    let progress := (middleEngine.execute turningProgram cornerWall).1.progress
    let after := (middleEngine.execute turningProgram cornerWall).2
    after.turtle = course.scene.turtle ∧ after.drawing = course.scene.log ∧
      match course.ending with
      | .through =>
        progress = .returned true ∧
          after.lastResult = some ⟨.completed, turningSteps.length, none⟩
      | .obstacle hit =>
        progress = .returned false ∧ after.lastResult = some ⟨.obstacle, course.made, some hit⟩
      | .boundary =>
        progress = .returned false ∧ after.lastResult = some ⟨.boundary, course.made, none⟩
      | .broken _ => False :=
  execute_means_tree middleEngine turningProgram turningSteps cornerWall rfl rfl rfl
    (fun _ _ _ _ => nofun) turningSteps_fit
    ⟨nofun, fun _ => ⟨nofun, fun _ => ⟨nofun, fun _ => ⟨nofun, fun _ =>
      ⟨fun _ => by decide +kernel, fun _ => trivial⟩⟩⟩⟩⟩

end TurtleScript
