import TurtleScript.Proofs.Watchers

/-!
Bystanders do not disturb a run. Whoever drives a run shares the engine with others, who try to
start programs, look at the engine, change the delay, or subscribe observers who do nothing. A
session with the bystanders is compared with one without them. Their engines differ in the delay and
in observers who do nothing; neither decides what a step does, so every operation of the driver has
the same outcome in both.
-/
namespace TurtleScript

/-! ## Two runs -/

/-- Where a run is, whatever delay it asks for. -/
def Progress.untimed : Progress → Progress
  | .suspended run _ => .suspended run 0.0
  | ended => ended

theorem Progress.untimed_suspended (run : Run) (here there : Float) :
    (Progress.suspended run there).untimed = (Progress.suspended run here).untimed := rfl

/-- How far a run got, whatever delays it asked for. -/
def Stretch.untimed (stretch : Stretch) : Stretch :=
  ⟨stretch.progress.untimed, stretch.sleeps, none⟩

/-- Two runs that are at the same place are suspended there or have ended in the same way. -/
theorem Progress.untimed_cases {p q : Progress} (same : q.untimed = p.untimed) :
    (∃ run here there, p = .suspended run here ∧ q = .suspended run there) ∨
      q = p ∧ ∀ run delay, p ≠ .suspended run delay := by
  cases p with
  | suspended run here =>
    cases q with
    | suspended other there =>
      cases (Progress.suspended.inj same).1
      exact .inl ⟨run, here, there, rfl, rfl⟩
    | returned | raised => cases same
  | returned success =>
    cases q with
    | returned other =>
      cases same
      exact .inr ⟨rfl, nofun⟩
    | suspended | raised => cases same
  | raised error =>
    cases q with
    | raised other =>
      cases same
      exact .inr ⟨rfl, nofun⟩
    | suspended | returned => cases same

namespace Engine

variable {scope : Scope} {a b : Engine}

/-- Two runs come to the same place, and their engines are alike. -/
def AlikeRuns (scope : Scope) (x y : Progress × Engine) : Prop :=
  y.1.untimed = x.1.untimed ∧ x.2.Alike scope y.2

/-- Two runs get as far, and their engines are alike. -/
def AlikeStretches (scope : Scope) (x y : Stretch × Engine) : Prop :=
  y.1.untimed = x.1.untimed ∧ x.2.Alike scope y.2

theorem Alike.verdict (alike : a.Alike scope b) (run : Run) : b.verdict run = a.verdict run := by
  obtain ⟨speed, others, rfl, -⟩ := alike
  rfl

theorem Alike.currentStep (alike : a.Alike scope b) : b.currentStep = a.currentStep := by
  obtain ⟨speed, others, rfl, -⟩ := alike
  rfl

theorem Alike.accept (alike : a.Alike scope b) (commands : List Command) :
    b.accept commands = a.accept commands := by
  obtain ⟨speed, others, rfl, -⟩ := alike
  rfl

theorem fail_alike (alike : a.Alike scope b) (error : EngineError) :
    AlikeRuns scope (a.fail error) (b.fail error) :=
  ⟨rfl, alike.map idle (fun _ => rfl) (fun _ _ _ => rfl)⟩

/-- Both runs end with a result, and what the observers make of it is the same. -/
private theorem ended_alike (alike : a.Alike scope b) (status : Status) (step : Int)
    (hit : Option Obstacle) : AlikeResults scope (a.record status step hit).idle.notify
      (b.record status step hit).idle.notify :=
  notify_alike (alike.map (fun e => (e.record status step hit).idle) (fun _ => rfl)
    (fun _ _ _ => rfl))

theorem finish_alike (alike : a.Alike scope b) (status : Status) (step : Nat)
    (hit : Option Obstacle) : AlikeRuns scope (a.finish status step hit)
      (b.finish status step hit) := by
  obtain ⟨answer, left, right, here, there, after⟩ := (ended_alike alike status step hit).split
  unfold finish
  rw [here, there]
  cases answer with
  | error error => exact ⟨rfl, after⟩
  | ok _ => exact ⟨rfl, after⟩

theorem cancel_alike (alike : a.Alike scope b) : AlikeRuns scope a.cancel b.cancel := by
  obtain ⟨answer, left, right, here, there, after⟩ :=
    (ended_alike alike .stopped a.currentStep none).split
  unfold cancel
  rw [alike.currentStep, here, there]
  cases answer with
  | error error => exact ⟨rfl, after⟩
  | ok _ => exact ⟨rfl, after⟩

theorem resume_alike (alike : a.Alike scope b) (run : Run) :
    AlikeRuns scope (a.resume run) (b.resume run) := by
  rw [resume_eq, resume_eq, alike.verdict run]
  cases a.verdict run with
  | ends status hit => exact finish_alike alike status run.index hit
  | breaks error => exact fail_alike alike error
  | commits c effect rest =>
    have stepped : (a.stepped run.index effect).Alike scope (b.stepped run.index effect) :=
      (alike.map (fun e => { e with currentStep := run.index }) (fun _ => rfl)
        (fun _ _ _ => rfl)).commit effect
    obtain ⟨answer, left, right, here, there, after⟩ := (notify_alike stepped).split
    simp only [carryOut, here, there]
    cases answer with
    | error error => exact fail_alike after error
    | ok _ => exact ⟨Progress.untimed_suspended _ _ _, after⟩

theorem start_alike (alike : a.Alike scope b) (commands : List Command)
    (obstacles : List Obstacle) :
    AlikeRuns scope (a.start commands obstacles) (b.start commands obstacles) := by
  unfold start
  rw [alike.accept commands]
  cases a.accept commands with
  | error error => exact ⟨rfl, alike⟩
  | ok steps =>
    exact resume_alike (alike.map (·.begin steps) (fun _ => rfl) (fun _ _ _ => rfl)) _

theorem drive_alike (count sleeps : Nat) (here there : Option Float) {p q : Progress}
    (runs : AlikeRuns scope (p, a) (q, b)) :
    AlikeStretches scope (drive count ⟨p, sleeps, here⟩ a) (drive count ⟨q, sleeps, there⟩ b) := by
  -- A delay is reported and never read, so the two of them are unrelated all along.
  induction count generalizing a b p q sleeps here there with
  | zero =>
    obtain ⟨same, alike⟩ := runs
    rcases Progress.untimed_cases same with ⟨run, wait, delay, rfl, rfl⟩ | ⟨rfl, ended⟩
    · exact ⟨rfl, alike⟩
    · cases q with
      | suspended run delay => exact absurd rfl (ended run delay)
      | returned | raised => exact ⟨rfl, alike⟩
  | succ more ih =>
    obtain ⟨same, alike⟩ := runs
    rcases Progress.untimed_cases same with ⟨run, wait, delay, rfl, rfl⟩ | ⟨rfl, ended⟩
    · exact ih (sleeps + 1) (some wait) (some delay) (resume_alike alike run)
    · cases q with
      | suspended run delay => exact absurd rfl (ended run delay)
      | returned | raised => exact ⟨rfl, alike⟩

theorem resumeTimes_alike (alike : a.Alike scope b) (count : Nat) (run : Run) :
    AlikeStretches scope (a.resumeTimes count run) (b.resumeTimes count run) := by
  cases count with
  | zero => exact ⟨by simp only [resumeTimes, Stretch.untimed, Progress.untimed], alike⟩
  | succ more => exact drive_alike more 0 none none (resume_alike alike run)

theorem startTimes_alike (alike : a.Alike scope b) (count : Nat) (commands : List Command)
    (obstacles : List Obstacle) :
    AlikeStretches scope (a.startTimes count commands obstacles)
      (b.startTimes count commands obstacles) :=
  drive_alike count 0 none none (start_alike alike commands obstacles)

theorem execute_alike (alike : a.Alike scope b) (commands : List Command)
    (obstacles : List Obstacle) :
    AlikeStretches scope (a.execute commands obstacles) (b.execute commands obstacles) := by
  cases accepted : a.accept commands with
  | error error =>
    rw [execute_refused obstacles accepted,
      execute_refused obstacles ((alike.accept commands).trans accepted)]
    exact ⟨rfl, alike⟩
  | ok steps =>
    rw [execute_accepted obstacles accepted,
      execute_accepted obstacles ((alike.accept commands).trans accepted)]
    exact startTimes_alike alike steps.length commands obstacles

end Engine

/-! ## Two sessions -/

/-- An answer, whatever delays were asked for. -/
def Answer.untimed : Answer → Answer
  | .ran stretch => .ran stretch.untimed
  | other => other

/-- Whether an operation leaves the subscriptions alone. -/
def Operation.drives : Operation → Bool
  | .subscribe _ _ | .unsubscribe _ => false
  | _ => true

namespace Session

/-- Two sessions have the same run, on engines that are alike. -/
structure Alike (scope : Scope) (s t : Session) : Prop where
  run : t.run = s.run
  engine : s.engine.Alike scope t.engine

/-- Two sessions answer the same, and are alike afterwards. -/
def AlikeAnswers (scope : Scope) (x y : Answer × Session) : Prop :=
  y.1.untimed = x.1.untimed ∧ x.2.Alike scope y.2

variable {scope : Scope} {s t : Session}

private theorem untimed_of_stretch {x y : Stretch} (same : y.untimed = x.untimed) :
    (answerOf y).untimed = (answerOf x).untimed ∧ runOf y = runOf x := by
  obtain ⟨p, sleeps, delay⟩ := x
  obtain ⟨q, others, wait⟩ := y
  obtain ⟨place, rfl, -⟩ := Stretch.mk.inj same
  rcases Progress.untimed_cases place with ⟨run, here, there, rfl, rfl⟩ | ⟨rfl, ended⟩
  · exact ⟨rfl, rfl⟩
  · cases q with
    | suspended run delay => exact absurd rfl (ended run delay)
    | returned | raised => exact ⟨rfl, rfl⟩

private theorem drove_alike {x y : Stretch × Engine} (driven : Engine.AlikeStretches scope x y) :
    AlikeAnswers scope (drove x) (drove y) := by
  obtain ⟨answers, runs⟩ := untimed_of_stretch driven.1
  exact ⟨answers, runs, driven.2⟩

private theorem started_alike (alike : s.Alike scope t) {x y : Stretch × Engine}
    (driven : Engine.AlikeStretches scope x y) :
    AlikeAnswers scope (s.started x) (t.started y) := by
  unfold started
  rw [alike.run]
  cases s.run with
  | none => exact drove_alike driven
  | some run => exact ⟨(untimed_of_stretch driven.1).1, rfl, driven.2⟩

/-- Every operation of the driver has the same outcome in both sessions. -/
theorem perform_alike (alike : s.Alike scope t) {operation : Operation}
    (drives : operation.drives = true) :
    AlikeAnswers scope (s.perform operation) (t.perform operation) := by
  cases operation with
  | start commands obstacles =>
    exact started_alike alike (Engine.startTimes_alike alike.engine 0 commands obstacles)
  | execute commands obstacles =>
    exact started_alike alike (Engine.execute_alike alike.engine commands obstacles)
  | resume count =>
    simp only [perform, alike.run]
    cases s.run with
    | none => exact ⟨rfl, alike⟩
    | some run => exact drove_alike (Engine.resumeTimes_alike alike.engine count run)
  | finish =>
    simp only [perform, alike.run]
    cases s.run with
    | none => exact ⟨rfl, alike⟩
    | some run => exact drove_alike (Engine.resumeTimes_alike alike.engine _ run)
  | cancel =>
    simp only [perform, alike.run]
    cases s.run with
    | none => exact ⟨rfl, alike⟩
    | some run =>
      obtain ⟨same, after⟩ := Engine.cancel_alike alike.engine
      refine drove_alike ⟨?_, after⟩
      simp only [Stretch.untimed, same]
  | stop =>
    exact ⟨rfl, alike.run, alike.engine.map Engine.stop (fun _ => rfl) (fun _ _ _ => rfl)⟩
  | reset start =>
    obtain ⟨answer, left, right, here, there, after⟩ :=
      (Engine.reset_alike alike.engine start).split
    simp only [perform, told, here, there]
    cases answer with
    | error error => exact ⟨rfl, alike.run, after⟩
    | ok _ => exact ⟨rfl, alike.run, after⟩
  | apply command =>
    simp only [perform, Engine.apply, alike.engine.effect command]
    cases s.engine.effect command with
    | error error => exact ⟨rfl, alike⟩
    | ok effect => exact ⟨rfl, alike.run, alike.engine.commit effect⟩
  | setColor color =>
    exact ⟨rfl, alike.run,
      alike.engine.map (·.setColor color) (fun _ => rfl) (fun _ _ _ => rfl)⟩
  | setPenSize size =>
    exact ⟨rfl, alike.run,
      alike.engine.map (·.setPenSize size) (fun _ => rfl) (fun _ _ _ => rfl)⟩
  | setSpeed given =>
    simp only [perform, Engine.setSpeed]
    cases clampSpeed given with
    | error fault => exact ⟨rfl, alike⟩
    | ok speed => exact ⟨rfl, alike.run, alike.engine.atSpeeds speed speed⟩
  | subscribe | unsubscribe => cases drives

/-- No observer of a session that came about by operations is entered twice. -/
theorem performAll_distinct (s : Session) (operations : List Operation)
    (distinct : Table.Distinct s.engine.observers.reactions) :
    Table.Distinct (s.performAll operations).engine.observers.reactions := by
  induction operations generalizing s with
  | nil => exact distinct
  | cons operation rest ih =>
    apply ih
    cases operation with
    | subscribe name reactions => exact Observers.distinct_subscribe distinct name reactions
    | unsubscribe ticket =>
      simp only [perform, Engine.withObservers, Observers.unsubscribe]
      split <;> exact distinct
    | _ =>
      -- A session is like itself only if nobody is entered twice, and operations keep that.
      have alike : s.Alike .all s :=
        ⟨rfl, s.engine.speed, s.engine.observers, rfl, .refl distinct⟩
      exact (perform_alike alike rfl).2.engine.observers.left

end Session

/-! ## Acts -/

/-- What happens to a session that is shared. -/
inductive Act where
  /-- An operation of whoever drives the run. -/
  | drive (operation : Operation)
  /-- An operation of a bystander. -/
  | meddle (operation : Operation)
  /-- A bystander looks at a snapshot. -/
  | look
  /-- A bystander subscribes an observer who does nothing, and keeps the ticket to itself. -/
  | watch (name : String)

namespace Act

/-- Whether an act is the driver's. -/
def isDriving : Act → Bool
  | .drive _ => true
  | _ => false

/-- The session after an act. -/
def after (s : Session) : Act → Session
  | .drive operation | .meddle operation => (s.perform operation).2
  | .look => s
  | .watch name =>
    { s with
      engine := s.engine.withObservers fun o => { o.subscribe name [] with tickets := o.tickets } }

/-- What the driver is answered. -/
def answers (s : Session) : Act → List Answer
  | .drive operation => [(s.perform operation).1]
  | _ => []

/-- Nobody meddles with the run. The driver leaves the subscriptions alone. Others try to start a
program while a run is under way, change the delay, look, or subscribe observers who do nothing.
Tickets are numbered in the order of the subscriptions, so a subscription that takes a number is
made when no observer is to give up one that comes later. -/
def Unobtrusive (s : Session) : Act → Prop
  | .drive operation => operation.drives = true
  | .meddle (.start _ _) | .meddle (.execute _ _) => s.engine.active = true
  | .meddle (.setSpeed _) | .look => True
  | .meddle (.subscribe name reactions) =>
    reactions = [] ∧ s.engine.observers.known name = [] ∧
      s.engine.observers.Give (Response.GivesUpOnly (· < s.engine.observers.tickets.length))
  | .meddle _ => False
  | .watch name => s.engine.observers.known name = []

instance (s : Session) : (act : Act) → Decidable (act.Unobtrusive s)
  | .drive operation => inferInstanceAs (Decidable (operation.drives = true))
  | .meddle (.start _ _) | .meddle (.execute _ _) =>
    inferInstanceAs (Decidable (s.engine.active = true))
  | .meddle (.setSpeed _) | .look => .isTrue trivial
  | .meddle (.subscribe name reactions) =>
    inferInstanceAs (Decidable (reactions = [] ∧ s.engine.observers.known name = [] ∧
      ∀ entry ∈ s.engine.observers.reactions, ∀ reaction ∈ entry.2,
        reaction.response.GivesUpOnly (· < s.engine.observers.tickets.length)))
  | .watch name => inferInstanceAs (Decidable (s.engine.observers.known name = []))
  | .meddle (.resume _) | .meddle .finish | .meddle .cancel | .meddle .stop | .meddle (.reset _)
  | .meddle (.apply _) | .meddle (.setColor _) | .meddle (.setPenSize _)
  | .meddle (.unsubscribe _) => .isFalse id

end Act

namespace Session

/-- The session after acts in order. -/
def attend (s : Session) (acts : List Act) : Session :=
  acts.foldl (fun s act => act.after s) s

/-- What the driver is answered by acts in order. -/
def answers (s : Session) : List Act → List Answer
  | [] => []
  | act :: rest => act.answers s ++ (act.after s).answers rest

/-- Nobody meddles with the run in any of the acts. -/
def Unobtrusive (s : Session) : List Act → Prop
  | [] => True
  | act :: rest => act.Unobtrusive s ∧ (act.after s).Unobtrusive rest

instance decidableUnobtrusive (s : Session) : (acts : List Act) → Decidable (s.Unobtrusive acts)
  | [] => .isTrue trivial
  | act :: rest =>
    have := decidableUnobtrusive (act.after s) rest
    inferInstanceAs (Decidable (act.Unobtrusive s ∧ (act.after s).Unobtrusive rest))

variable {scope : Scope} {s t : Session}

/-- A program is refused while a run is under way, and nothing is touched. -/
theorem perform_refused (active : s.engine.active = true) (commands : List Command)
    (obstacles : List Obstacle) :
    s.perform (.start commands obstacles) = (.failed .inProgress, s) ∧
      s.perform (.execute commands obstacles) = (.failed .inProgress, s) := by
  have refused : s.engine.accept commands = .error .inProgress := by
    rw [Engine.accept, if_pos active]
  have unchanged : s.started (⟨.raised .inProgress, 0, none⟩, s.engine) =
      (.failed .inProgress, s) := by
    obtain ⟨engine, run⟩ := s
    cases run <;> rfl
  simp only [perform, Engine.startTimes_refused obstacles 0 refused,
    Engine.execute_refused obstacles refused, unchanged, and_self]

/-- Another observer who does nothing leaves two sessions alike. -/
private theorem joined_alike (alike : s.Alike scope t) {name : String}
    (quiet : t.engine.observers.known name = []) {held : Nat → Prop} {tickets : List String}
    (holds : ∀ other, ∀ reaction ∈ t.engine.observers.known other,
      reaction.response.GivesUpOnly held)
    (before : t.engine.observers.tickets = s.engine.observers.tickets ∨ ∀ ticket, held ticket →
      ∃ name, s.engine.observers.tickets[ticket]? = some name ∧
        t.engine.observers.tickets[ticket]? = some name)
    (after : tickets = s.engine.observers.tickets ∨ ∀ ticket, held ticket →
      ∃ name, s.engine.observers.tickets[ticket]? = some name ∧ tickets[ticket]? = some name) :
    ∃ scope, s.Alike scope { t with
      engine := t.engine.withObservers fun o => { o.subscribe name [] with tickets } } := by
  have watched := alike.engine.observers
  have own : ∀ other, ∀ reaction ∈ s.engine.observers.known other,
      reaction.response.GivesUpOnly held := by
    intro other reaction member
    rw [← watched.known other] at member
    exact holds other reaction member
  have dull : (!(s.engine.observers.known name).isEmpty) = false := by
    rw [← watched.known name, quiet]
    rfl
  have joined := (watched.narrow own before).join dull after
  obtain ⟨speed, others, same, -⟩ := alike.engine
  refine ⟨_, alike.run, speed, _, ?_, joined⟩
  simp only [Engine.withObservers, same]

/-- What a bystander does leaves two sessions alike. -/
theorem bystander_alike (alike : s.Alike scope t) {act : Act} (bystander : act.isDriving = false)
    (unobtrusive : act.Unobtrusive t) : ∃ scope, s.Alike scope (act.after t) := by
  have watched := alike.engine.observers
  have holds : ∀ other, ∀ reaction ∈ t.engine.observers.known other,
      reaction.response.GivesUpOnly scope.held := by
    intro other reaction member
    rw [watched.known other] at member
    exact watched.keeps.holds other reaction member
  cases act with
  | drive operation => cases bystander
  | look => exact ⟨scope, alike⟩
  | watch name => exact joined_alike alike unobtrusive holds watched.tickets watched.tickets
  | meddle operation =>
    cases operation with
    | start commands obstacles =>
      refine ⟨scope, ?_⟩
      simp only [Act.after, (perform_refused unobtrusive commands obstacles).1]
      exact alike
    | execute commands obstacles =>
      refine ⟨scope, ?_⟩
      simp only [Act.after, (perform_refused unobtrusive commands obstacles).2]
      exact alike
    | setSpeed given =>
      refine ⟨scope, ?_⟩
      simp only [Act.after, perform, Engine.setSpeed]
      cases clampSpeed given with
      | error fault => exact alike
      | ok speed => exact ⟨alike.run, alike.engine.atSpeeds s.engine.speed speed⟩
    | subscribe name reactions =>
      obtain ⟨rfl, quiet, issued⟩ := unobtrusive
      let held := fun ticket => scope.held ticket ∧ ticket < t.engine.observers.tickets.length
      have both : ∀ ticket, held ticket →
          ∃ name, s.engine.observers.tickets[ticket]? = some name ∧
            t.engine.observers.tickets[ticket]? = some name := by
        rintro ticket ⟨kept, inside⟩
        rcases watched.tickets with same | issued
        · rw [← same]
          exact ⟨_, List.getElem?_eq_getElem inside, List.getElem?_eq_getElem inside⟩
        · exact issued ticket kept
      refine joined_alike alike quiet (fun other reaction member =>
        (holds other reaction member).and (issued.known member)) (.inr both)
        (.inr fun ticket kept => ?_)
      obtain ⟨owner, here, there⟩ := both ticket kept
      exact ⟨owner, here, (List.getElem?_append_left kept.2).trans there⟩
    | _ => exact unobtrusive.elim

/-- The driver's acts alone leave a session that is like the one that all the acts leave. -/
theorem attend_alike (alike : s.Alike scope t) (acts : List Act)
    (unobtrusive : t.Unobtrusive acts) :
    (∃ scope, (s.attend (acts.filter Act.isDriving)).Alike scope (t.attend acts)) ∧
      (t.answers acts).map Answer.untimed =
        (s.answers (acts.filter Act.isDriving)).map Answer.untimed := by
  -- A ticket that is taken narrows the scope, so it varies with the two sessions.
  induction acts generalizing s t scope with
  | nil => exact ⟨⟨scope, alike⟩, rfl⟩
  | cons act rest ih =>
    obtain ⟨now, later⟩ := unobtrusive
    cases driving : act.isDriving with
    | false =>
      obtain ⟨scope, still⟩ := bystander_alike alike driving now
      have unanswered : act.answers t = [] := by
        cases act with
        | drive => cases driving
        | _ => rfl
      rw [List.filter_cons_of_neg (by simp [driving]), answers, unanswered]
      exact ih still later
    | true =>
      cases act with
      | meddle | look | watch => cases driving
      | drive operation =>
        obtain ⟨same, after⟩ := perform_alike alike now
        obtain ⟨left, answered⟩ := ih after later
        rw [List.filter_cons_of_pos driving]
        refine ⟨left, ?_⟩
        simp only [answers, Act.answers, List.map_append, List.map_cons, List.map_nil, same]
        exact congrArg _ answered

end Session

/-! ## Bystanders -/

/-- A session that came about in any way is shared from now on, and nobody meddles with its run. It
ends up as if the driver had been alone: the turtle, the drawing, the result and the flags are the
same, and so are the run that is left and what the driver was answered, except for the delays that
it was asked to wait. A program that is tried while a run is under way is refused, and the session
is left as it is, with all of its observers told what they were told before. -/
theorem bystanders_change_nothing (setup : Setup) (engine : Engine)
    (created : Engine.create setup = .ok engine) (prior : List Operation) (acts : List Act)
    (unobtrusive : ((Session.ofEngine engine).performAll prior).Unobtrusive acts) :
    let s := (Session.ofEngine engine).performAll prior
    let alone := s.attend (acts.filter Act.isDriving)
    let crowded := s.attend acts
    crowded.engine.turtle = alone.engine.turtle ∧
    crowded.engine.drawings = alone.engine.drawings ∧
    crowded.engine.lastResult = alone.engine.lastResult ∧
    crowded.engine.totalSteps = alone.engine.totalSteps ∧
    crowded.engine.currentStep = alone.engine.currentStep ∧
    crowded.engine.running = alone.engine.running ∧
    crowded.run = alone.run ∧
    (s.answers acts).map Answer.untimed =
      (s.answers (acts.filter Act.isDriving)).map Answer.untimed ∧
    ∀ before after, acts = before ++ after → (s.attend before).engine.active = true →
      ∀ commands obstacles,
        (s.attend before).perform (.start commands obstacles) =
          (.failed .inProgress, s.attend before) ∧
        (s.attend before).perform (.execute commands obstacles) =
          (.failed .inProgress, s.attend before) := by
  intro s alone crowded
  have distinct : Table.Distinct s.engine.observers.reactions := by
    apply Session.performAll_distinct
    rw [Session.ofEngine, Engine.create_nobody created]
    exact Table.distinct_nil
  have itself : s.Alike .all s := ⟨rfl, s.engine.speed, s.engine.observers, rfl, .refl distinct⟩
  obtain ⟨⟨scope, left⟩, answered⟩ := Session.attend_alike itself acts unobtrusive
  obtain ⟨speed, observers, same, -⟩ := left.engine
  refine ⟨?_, ?_, ?_, ?_, ?_, ?_, left.run, answered, ?_⟩
  · rw [same]
  · rw [same]
  · rw [same]
  · rw [same]
  · rw [same]
  · rw [same]
  · intro before after _ active commands obstacles
    exact Session.perform_refused active commands obstacles

private def raisePen : Command := ⟨.penUp, none, [], 1, 1⟩

/-- A run of four steps under an observer who asks for a stop at the third one. -/
private def sharedOperations : List Operation :=
  [.subscribe "warden" [⟨2, .stop⟩], .start [raisePen, raisePen, raisePen, raisePen] []]

/-- The run is driven to its end while others try what they can; the last program is tried when the
run was asked to stop. -/
private def sharedActs : List Act :=
  [.meddle (.start [raisePen] []), .look, .drive (.resume 1), .meddle (.subscribe "clerk" []),
    .meddle (.setSpeed (.whole 10)), .watch "guest", .drive (.resume 1),
    .meddle (.execute [raisePen] []), .drive .finish]

/-- The observer's stop ends the run at the same step as without the others. -/
theorem bystanders_leave_stop :
    let engine := Engine.placed ⟨40.0, 30.0, 0.0⟩
    let s := (Session.ofEngine engine).performAll sharedOperations
    Engine.create { start := some ⟨40.0, 30.0, 0.0⟩ } = .ok engine ∧ s.Unobtrusive sharedActs ∧
      (s.attend sharedActs).engine.lastResult.map (fun result => (result.status, result.step)) =
        some (.stopped, 3) := by
  intro engine s
  have created := Engine.create_placed ⟨40.0, 30.0, 0.0⟩
  have unobtrusive : s.Unobtrusive sharedActs := by decide +kernel
  have left := bystanders_change_nothing _ _ created sharedOperations sharedActs unobtrusive
  refine ⟨created, unobtrusive, ?_⟩
  rw [left.2.2.1]
  decide +kernel

end TurtleScript
