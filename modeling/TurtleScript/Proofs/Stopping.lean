import TurtleScript.Proofs.Lifecycle

/-!
Stopping is exact. A run may be asked to stop by its holder while it is suspended, by a reset, or by
an observer that is shown a step. However these come together with the resumptions, the run commits
a first part of its program, says how long that part is, and says that it was stopped exactly when
it was asked. Observers may not draw here: one that moves the turtle after a stop is no part of it.
-/
namespace TurtleScript

/-! ## Observers that only watch and stop -/

/-- A response that leaves the turtle and the drawing alone. -/
def Response.Harmless : Response → Prop
  | .reset _ | .color _ | .apply _ => False
  | _ => True

/-- A response that asks the run to stop. -/
def Response.asksStop : Response → Bool
  | .stop => true
  | _ => false

namespace Observers

/-- An observer asks for a stop when it is shown a step. -/
def asksAt (o : Observers) (step : Int) (name : String) : Bool :=
  (o.known name).any fun reaction => reaction.atStep == step && reaction.response.asksStop

/-- A subscription in force asks for a stop when a step is shown. -/
def stopsAt (o : Observers) (step : Int) : Bool :=
  o.subscribed.any (o.asksAt step)

private theorem lookup_replaced (entries : List (String × List Reaction)) (name other : String)
    (later : List Reaction) :
    (entries.map fun entry => if entry.1 = name then (name, later) else entry).lookup other =
      if other = name then (entries.lookup name).map fun _ => later else entries.lookup other := by
  induction entries with
  | nil => by_cases same : other = name <;> simp [same]
  | cons entry rest ih =>
    obtain ⟨key, reactions⟩ := entry
    by_cases named : key = name
    · subst named
      by_cases same : other = key
      · subst same
        simp
      · simp [List.lookup_cons, same, ih, beq_eq_false_iff_ne.mpr same]
    · by_cases same : other = name
      · subst same
        simp [List.lookup_cons, named, ih, beq_eq_false_iff_ne.mpr (Ne.symm named)]
      · simp [List.lookup_cons, named, same, ih]

/-- Taking what is due leaves an observer the rest, and the others everything. -/
theorem known_takeDue (o : Observers) (name other : String) (step : Int) :
    (o.takeDue name step).2.known other =
      if other = name then (o.known name).filter fun reaction => !(reaction.atStep == step)
      else o.known other := by
  simp only [takeDue, known, lookup_replaced]
  by_cases same : other = name
  · subst same
    cases o.reactions.lookup other <;> simp
  · simp [same]

theorem known_subscribe_silent (o : Observers) (name other : String) :
    (o.subscribe name []).known other = o.known other := by
  simp only [subscribe, known]
  split
  · rfl
  · rename_i unknown
    rw [List.lookup_append]
    cases found : o.reactions.lookup other with
    | some reactions => rfl
    | none => cases named : other == name <;> simp [List.lookup_cons, named]

theorem known_unsubscribe (o : Observers) (ticket : Nat) (other : String) :
    (o.unsubscribe ticket).known other = o.known other := by
  unfold unsubscribe
  split <;> rfl

/-- What is not due at a step asks for nothing when it is shown. -/
private theorem none_asks_twice (reactions : List Reaction) (step : Int) :
    ((reactions.filter fun reaction => !(reaction.atStep == step)).any fun reaction =>
      reaction.atStep == step && reaction.response.asksStop) = false := by
  apply List.any_eq_false.mpr
  intro reaction member
  have later := (List.mem_filter.mp member).2
  simp only [Bool.not_eq_true'] at later
  simp [later]

/-- Once an observer has given what was due at a step, only others ask for a stop there. -/
private theorem asksAt_of_spent {o after : Observers} {name : String} {step : Int}
    (left : ∀ other, after.known other =
      if other = name then (o.known name).filter fun reaction => !(reaction.atStep == step)
      else o.known other) (other : String) :
    after.asksAt step other = (!(other == name) && o.asksAt step other) := by
  unfold asksAt
  rw [left other]
  by_cases same : other = name
  · rw [if_pos same, none_asks_twice]
    simp [same]
  · simp [same]

end Observers

namespace Engine

variable {tell : Engine → Result Unit}

/-- A harmless response that does not fail stops the run if it asks for that, and leaves every
observer what it had. -/
private theorem respond_running {e after : Engine} {name : String} {r : Response}
    (harmless : r.Harmless) (done : e.respond tell name r = (.ok (), after)) :
    after.running = (e.running && !r.asksStop) ∧
      ∀ other, after.observers.known other = e.observers.known other := by
  cases r with
  | reset | color | apply => exact harmless.elim
  | fail | misuse => cases done
  | stop =>
    cases done
    exact ⟨by simp [stop, Response.asksStop], fun _ => rfl⟩
  | unsubscribe ticket =>
    cases done
    exact ⟨by simp [withObservers, Response.asksStop], e.observers.known_unsubscribe ticket⟩
  | subscribe subscriber =>
    cases done
    exact ⟨by simp [withObservers, Response.asksStop],
      e.observers.known_subscribe_silent subscriber⟩
  | start =>
    simp only [respond, Prod.mk.injEq, true_and] at done
    subst done
    split <;> exact ⟨by simp [withObservers, Response.asksStop], fun _ => rfl⟩

private theorem respondAll_running (name : String) (reactions : List Reaction)
    {e after : Engine} (harmless : ∀ reaction ∈ reactions, reaction.response.Harmless)
    (done : respondAll tell name e reactions = (.ok (), after)) :
    after.running = (e.running && !reactions.any fun reaction => reaction.response.asksStop) ∧
      ∀ other, after.observers.known other = e.observers.known other := by
  induction reactions generalizing e with
  | nil =>
    cases done
    simp
  | cons reaction rest ih =>
    simp only [respondAll] at done
    split at done
    · cases done
    · rename_i middle first
      obtain ⟨stopped, kept⟩ := respond_running (harmless reaction (by simp)) first
      obtain ⟨later, keeps⟩ := ih (fun r member => harmless r (by simp [member])) done
      refine ⟨?_, fun other => (keeps other).trans (kept other)⟩
      rw [later, stopped]
      simp [Bool.and_assoc]

/-- An observer that is told without a failure stops the run if it asks for that. It asks at most
once, and nobody else asks for more or less than before. -/
private theorem tellOne_running {snapshot : Snapshot} {name : String} {e after : Engine}
    (harmless : ∀ reaction ∈ e.observers.known name, reaction.response.Harmless)
    (done : e.tellOne tell snapshot name = (.ok (), after)) :
    after.running = (e.running && !e.observers.asksAt snapshot.currentStep name) ∧
      ∀ other, after.observers.known other =
        if other = name then
          (e.observers.known name).filter fun reaction =>
            !(reaction.atStep == snapshot.currentStep)
        else e.observers.known other := by
  have due : ∀ reaction ∈ (e.observers.known name).filter
      (fun reaction => reaction.atStep == snapshot.currentStep), reaction.response.Harmless :=
    fun reaction member => harmless reaction (List.mem_filter.mp member).1
  obtain ⟨stopped, kept⟩ := respondAll_running name _ due done
  refine ⟨?_, fun other => (kept other).trans (Observers.known_takeDue _ name other _)⟩
  rw [stopped, List.any_filter]
  rfl

private theorem tellEach_running {snapshot : Snapshot} (names : List String) {e after : Engine}
    (harmless : ∀ name, ∀ reaction ∈ e.observers.known name, reaction.response.Harmless)
    (done : tellEach tell snapshot e names = (.ok (), after)) :
    after.running =
      (e.running && !names.any (e.observers.asksAt snapshot.currentStep)) := by
  induction names generalizing e with
  | nil =>
    cases done
    simp
  | cons name rest ih =>
    simp only [tellEach] at done
    split at done
    · cases done
    · rename_i middle first
      obtain ⟨stopped, left⟩ := tellOne_running (harmless name) first
      have remains : ∀ name, ∀ reaction ∈ middle.observers.known name,
          reaction.response.Harmless := by
        intro other reaction member
        rw [left other] at member
        split at member
        · exact harmless name reaction (List.mem_filter.mp member).1
        · exact harmless other reaction member
      rw [ih remains done, stopped, List.any_cons, Bool.not_or, Bool.and_assoc]
      cases asks : e.observers.asksAt snapshot.currentStep name with
      | true => simp
      | false =>
        -- The observer may be told again, but it asks for nothing then as it asked for nothing now.
        have same : ∀ other, middle.observers.asksAt snapshot.currentStep other =
            e.observers.asksAt snapshot.currentStep other := by
          intro other
          rw [Observers.asksAt_of_spent left other]
          by_cases named : other = name
          · simp [named, asks]
          · simp [named]
        simp only [Bool.not_false, Bool.true_and, funext same]

/-- A notification that does not fail leaves a run going unless an observer asks it to stop. -/
theorem notify_running {e after : Engine} (harmless : e.observers.Give Response.Harmless)
    (done : e.notify = (.ok (), after)) :
    after.running = (e.running && !e.observers.stopsAt e.currentStep) :=
  tellEach_running _ (fun _ _ member => harmless.known member) done

/-- The turtle, its drawing and its canvas are the same. -/
structure Untouched (a b : Engine) : Prop where
  turtle : b.turtle = a.turtle
  drawings : b.drawings = a.drawings
  width : b.width = a.width
  height : b.height = a.height

namespace Untouched

variable {a b c : Engine}

theorem trans (first : Untouched a b) (second : Untouched b c) : Untouched a c :=
  ⟨second.turtle.trans first.turtle, second.drawings.trans first.drawings,
    second.width.trans first.width, second.height.trans first.height⟩

/-- What is refused depends on the turtle and the canvas alone. -/
theorem refuses (same : Untouched a b) {command : Command} {obstacles : List Obstacle}
    {status : Status} {hit : Option Obstacle} (refuses : a.Refuses command obstacles status hit) :
    b.Refuses command obstacles status hit := by
  have leads : b.destination command = a.destination command := by
    simp only [destination, same.turtle]
  have inside : ∀ p, b.within p = a.within p := by
    intro p
    simp only [within, same.width, same.height]
  simpa only [Refuses, leads, inside] using refuses

end Untouched

/-- Observers that are harmless leave the turtle and the drawing alone, also where they fail. -/
theorem notify_untouched {e : Engine} (harmless : e.observers.Give Response.Harmless) :
    Untouched e e.notify.2 ∧ e.notify.2.observers.Give Response.Harmless := by
  have borne : Borne Response.Harmless (fun e result => Untouched e result.2) :=
    { still := fun _ => ⟨rfl, rfl, rfl, rfl⟩
      next := Untouched.trans
      observers := fun _ _ => ⟨rfl, rfl, rfl, rfl⟩
      response := by
        intro tell e r name harmless _ _
        cases r with
        | reset | color | apply => exact harmless.elim
        | stop | fail | misuse | unsubscribe | subscribe => exact ⟨rfl, rfl, rfl, rfl⟩
        | start =>
          simp only [respond]
          split <;> exact ⟨rfl, rfl, rfl, rfl⟩ }
  exact notify_keeps borne harmless

end Engine

/-! ## The life of a run -/

/-- An observer asks for a stop when it is shown the step that the next resumption makes. -/
def Engine.stopAsked (e : Engine) (run : Run) : Bool :=
  match e.verdict run with
  | .commits _ _ _ => e.observers.stopsAt run.index
  | _ => false

/-- Whether an operation is one of those that a run is interrupted by. Looking at an engine is no
operation, since it changes nothing. -/
def Operation.interrupts : Operation → Bool
  | .stop | .reset _ | .setColor _ | .setSpeed _ => true
  | _ => false

/-- An operation asks the run to stop. A reset without a start goes to the middle of the canvas, and
where that cannot be found it fails before it does anything. -/
def Operation.asksStop (e : Engine) : Operation → Bool
  | .stop => true
  | .reset pose => (pose.elim (centerOf e.width e.height) .ok).toBool
  | _ => false

/-- A run from its start, resumed and interrupted in any order: the commands it has committed,
whether it was asked to stop, where it is, and the engine. -/
inductive Lives (origin : Engine) (commands : List Command) (obstacles : List Obstacle)
    (steps : List Command) : List Command → Bool → Progress → Engine → Prop
  | started (accepted : origin.accept commands = .ok steps) :
    Lives origin commands obstacles steps
      ((origin.begin steps).committed ⟨steps, 0, obstacles⟩)
      ((origin.begin steps).stopAsked ⟨steps, 0, obstacles⟩)
      (origin.start commands obstacles).1 (origin.start commands obstacles).2
  | resumed {committed : List Command} {asked : Bool} {run : Run} {delay : Float} {e : Engine}
    (lives : Lives origin commands obstacles steps committed asked (.suspended run delay) e) :
    Lives origin commands obstacles steps (committed ++ e.committed run)
      (asked || e.stopAsked run) (e.resume run).1 (e.resume run).2
  | interrupted {committed : List Command} {asked : Bool} {run : Run} {delay : Float} {e : Engine}
    {operation : Operation}
    (lives : Lives origin commands obstacles steps committed asked (.suspended run delay) e)
    (between : operation.interrupts = true) :
    Lives origin commands obstacles steps committed (asked || operation.asksStop e)
      (.suspended run delay) ((Session.mk e (some run)).perform operation).2.engine

/-- A suspended run has committed a first part of its program, is at the command after it, and goes
on unless it was asked to stop. -/
structure Abreast (steps : List Command) (obstacles : List Obstacle) (committed : List Command)
    (asked : Bool) (run : Run) (e : Engine) : Prop where
  program : steps = committed ++ run.rest
  index : run.index = committed.length
  obstacles : run.obstacles = obstacles
  totalSteps : e.totalSteps = steps.length
  running : e.running = !asked
  harmless : e.observers.Give Response.Harmless

/-- A run that has returned says how long the first part is that it committed, and why it ended. -/
def Concluded (steps : List Command) (obstacles : List Obstacle) (committed : List Command)
    (asked success : Bool) (e : Engine) : Prop :=
  ∃ status hit rest, e.lastResult = some ⟨status, committed.length, hit⟩ ∧
    steps = committed ++ rest ∧ e.totalSteps = steps.length ∧ success = status.succeeded ∧
    (asked = true ∧ status = .stopped ∨
      asked = false ∧ (rest = [] ∧ status = .completed ∨
        ∃ c later, rest = c :: later ∧ e.Refuses c obstacles status hit))

/-- What is known of a run wherever it is; of one that failed, nothing. -/
def Exact (steps : List Command) (obstacles : List Obstacle) (committed : List Command)
    (asked : Bool) : Progress → Engine → Prop
  | .suspended run _, e => Abreast steps obstacles committed asked run e
  | .returned success, e => Concluded steps obstacles committed asked success e
  | .raised _, _ => True

section Steps

variable {steps committed : List Command} {obstacles : List Obstacle} {asked : Bool} {run : Run}
  {e : Engine}

/-- The verdict that ends a run, told by what it was asked. -/
private theorem Abreast.ending (abreast : Abreast steps obstacles committed asked run e)
    {status : Status} {hit : Option Obstacle} (verdict : e.verdict run = .ends status hit) :
    asked = true ∧ status = .stopped ∨
      asked = false ∧ (run.rest = [] ∧ status = .completed ∨
        ∃ c later, run.rest = c :: later ∧ e.Refuses c obstacles status hit) := by
  have running := abreast.running
  cases asked with
  | true =>
    rw [Engine.verdict_stopped run running] at verdict
    cases verdict
    exact .inl ⟨rfl, rfl⟩
  | false =>
    refine .inr ⟨rfl, ?_⟩
    rcases Engine.verdict_ends running verdict with
      ⟨ended, completed, -⟩ | ⟨c, later, left, refuses⟩
    · exact .inl ⟨ended, completed⟩
    · rw [abreast.obstacles] at refuses
      exact .inr ⟨c, later, left, refuses⟩

/-- A run that ends with a result is concluded, unless an observer fails at its end. -/
private theorem finish_exact (abreast : Abreast steps obstacles committed asked run e)
    {status : Status} {hit : Option Obstacle} (verdict : e.verdict run = .ends status hit) :
    Exact steps obstacles committed asked (e.finish status run.index hit).1
      (e.finish status run.index hit).2 := by
  have harmless : (e.record status run.index hit).idle.observers.Give Response.Harmless :=
    abreast.harmless
  have untouched := (Engine.notify_untouched harmless).1
  have steady := (Engine.notify_steady (e.record status run.index hit).idle).1
  unfold Engine.finish
  split
  · exact trivial
  · rename_i after told
    rw [told] at untouched steady
    have same : Engine.Untouched e after :=
      ⟨untouched.turtle, untouched.drawings, untouched.width, untouched.height⟩
    refine ⟨status, hit, run.rest, ?_, abreast.program,
      steady.totalSteps.trans abreast.totalSteps, rfl, ?_⟩
    · rw [← abreast.index]
      exact steady.lastResult
    · rcases abreast.ending verdict with stopped | ⟨unasked, completed | ⟨c, later, left, refuses⟩⟩
      · exact .inl stopped
      · exact .inr ⟨unasked, .inl completed⟩
      · exact .inr ⟨unasked, .inr ⟨c, later, left, same.refuses refuses⟩⟩

/-- A committed command brings the run one command further, and an observer may have asked it to
stop by then. -/
private theorem step_exact (abreast : Abreast steps obstacles committed asked run e)
    {c : Command} {effect : Engine.Effect} {rest : List Command}
    (verdict : e.verdict run = .commits c effect rest) {after : Engine}
    (told : (e.stepped run.index effect).notify = (.ok (), after)) :
    Abreast steps obstacles (committed ++ [c]) (asked || e.observers.stopsAt run.index)
      ⟨rest, run.index + 1, run.obstacles⟩ after := by
  obtain ⟨left, running, -, -, -⟩ := Engine.verdict_commits verdict
  have harmless : (e.stepped run.index effect).observers.Give Response.Harmless := by
    simpa [Engine.stepped] using abreast.harmless
  have steady := (Engine.notify_steady (e.stepped run.index effect)).1
  have gives := (Engine.notify_untouched harmless).2
  have stops := Engine.notify_running harmless told
  rw [told] at steady gives
  have unasked : asked = false := by
    have flags := abreast.running
    rw [running] at flags
    simpa using flags.symm
  refine ⟨?_, ?_, abreast.obstacles, ?_, ?_, gives⟩
  · simp [abreast.program, left]
  · simp [abreast.index]
  · rw [steady.totalSteps]
    simpa [Engine.stepped] using abreast.totalSteps
  · rw [stops]
    simp [Engine.stepped, running, unasked]

/-- A resumption keeps what is known of a run. -/
private theorem resume_exact (abreast : Abreast steps obstacles committed asked run e) :
    Exact steps obstacles (committed ++ e.committed run) (asked || e.stopAsked run)
      (e.resume run).1 (e.resume run).2 := by
  rw [Engine.resume_eq]
  unfold Engine.committed Engine.stopAsked
  cases verdict : e.verdict run with
  | ends status hit =>
    simp only [List.append_nil, Bool.or_false]
    exact finish_exact abreast verdict
  | breaks error => exact trivial
  | commits c effect rest =>
    simp only [Engine.carryOut]
    split
    · exact trivial
    · rename_i told
      exact step_exact abreast verdict told

/-- A reset that finds its place stops the run; one that does not leaves everything as it is. -/
private theorem reset_exact (abreast : Abreast steps obstacles committed asked run e)
    (start : Option Pose) :
    Abreast steps obstacles committed
      (asked || (start.elim (centerOf e.width e.height) Except.ok).toBool) run
      (e.reset start).2 := by
  unfold Engine.reset Engine.resetWith
  cases start.elim (centerOf e.width e.height) Except.ok with
  | error fault => simpa [Except.toBool] using abreast
  | ok pose =>
    have harmless : (e.restart pose).observers.Give Response.Harmless := abreast.harmless
    have steady := (Engine.notify_steady (e.restart pose)).1
    simp only [Except.toBool, Bool.or_true]
    exact ⟨abreast.program, abreast.index, abreast.obstacles,
      steady.totalSteps.trans abreast.totalSteps, steady.of_stopped rfl,
      (Engine.notify_untouched harmless).2⟩

/-- An interruption keeps what is known of a suspended run. -/
private theorem interrupt_exact (abreast : Abreast steps obstacles committed asked run e)
    {operation : Operation} (between : operation.interrupts = true) :
    Abreast steps obstacles committed (asked || operation.asksStop e) run
      ((Session.mk e (some run)).perform operation).2.engine := by
  cases operation with
  | stop =>
    simp only [Operation.asksStop, Bool.or_true]
    exact ⟨abreast.program, abreast.index, abreast.obstacles, abreast.totalSteps, rfl,
      abreast.harmless⟩
  | reset start =>
    have reset := reset_exact abreast start
    simp only [Session.perform, Session.told, Operation.asksStop]
    cases done : e.reset start with
    | mk answer after =>
      rw [done] at reset
      cases answer <;> exact reset
  | setColor color =>
    simp only [Operation.asksStop, Bool.or_false]
    exact ⟨abreast.program, abreast.index, abreast.obstacles, abreast.totalSteps,
      abreast.running, abreast.harmless⟩
  | setSpeed speed =>
    simp only [Session.perform, Engine.setSpeed, Operation.asksStop, Bool.or_false]
    cases clampSpeed speed with
    | error fault => exact abreast
    | ok speed =>
      exact ⟨abreast.program, abreast.index, abreast.obstacles, abreast.totalSteps,
        abreast.running, abreast.harmless⟩
  | _ => cases between

end Steps

section Lives

variable {origin e : Engine} {commands steps committed : List Command}
  {obstacles : List Obstacle} {asked : Bool} {progress : Progress}

/-- What is known of a run holds wherever it is. The induction is on its life so far. -/
theorem Lives.exact (harmless : origin.observers.Give Response.Harmless)
    (lives : Lives origin commands obstacles steps committed asked progress e) :
    Exact steps obstacles committed asked progress e := by
  induction lives with
  | started accepted =>
    have begun : Abreast steps obstacles [] false ⟨steps, 0, obstacles⟩ (origin.begin steps) :=
      ⟨rfl, rfl, rfl, rfl, rfl, harmless⟩
    have resumed := resume_exact begun
    simpa [Engine.start, accepted] using resumed
  | resumed _ suspended => exact resume_exact suspended
  | interrupted _ between suspended => exact interrupt_exact suspended between

theorem Lives.flat (lives : Lives origin commands obstacles steps committed asked progress e) :
    Command.flattenAll commands = .ok steps := by
  induction lives with
  | started accepted => exact Engine.flat_of_accept accepted
  | resumed _ flat => exact flat
  | interrupted _ _ flat => exact flat

/-- A run that was asked to stop ends when it is resumed, and draws nothing. -/
private theorem Abreast.resume_asked {run : Run}
    (abreast : Abreast steps obstacles committed true run e) :
    (e.resume run).2.turtle = e.turtle ∧ (e.resume run).2.drawings = e.drawings := by
  have harmless : (e.record .stopped run.index none).idle.observers.Give Response.Harmless :=
    abreast.harmless
  have untouched := (Engine.notify_untouched harmless).1
  rw [Engine.resume_eq, Engine.verdict_stopped run abreast.running]
  simp only [Engine.carryOut, Engine.finish]
  cases told : (e.record .stopped run.index none).idle.notify with
  | mk answer after =>
    rw [told] at untouched
    cases answer <;> exact ⟨untouched.turtle, untouched.drawings⟩

end Lives

private theorem refused_status {e : Engine} {c : Command} {obstacles : List Obstacle}
    {status : Status} {hit : Option Obstacle} (refuses : e.Refuses c obstacles status hit) :
    status = .obstacle ∨ status = .boundary := by
  obtain ⟨-, p, -, -, ⟨obstacle, -⟩ | ⟨boundary, -⟩⟩ := refuses
  · exact .inl obstacle
  · exact .inr boundary

private theorem succeeded_iff (status : Status) :
    status.succeeded = true ↔ status = .completed ∨ status = .stopped := by
  cases status <;> simp [Status.succeeded]

/-! ## Exactness -/

/-- A run among observers that only watch and stop, resumed and interrupted in any order. Once it
was asked to stop, no resumption touches the turtle or the drawing. If it returns, it has committed
the first commands of its flattened program, each once and in order, and its result gives their
number. It was stopped exactly if it was asked to, also after its last step; else it completed all
its steps, or its next command is a movement that is refused. It answers that nothing was in the way
exactly if it completed or was stopped. -/
theorem stop_is_exact (origin : Engine) (commands : List Command) (obstacles : List Obstacle)
    (harmless : origin.observers.Give Response.Harmless) (steps committed : List Command)
    (asked : Bool) (progress : Progress) (e : Engine)
    (lives : Lives origin commands obstacles steps committed asked progress e) :
    Command.flattenAll commands = .ok steps ∧
    (∀ run delay, progress = .suspended run delay → asked = true →
      (e.resume run).2.turtle = e.turtle ∧ (e.resume run).2.drawings = e.drawings) ∧
    (∀ success, progress = .returned success →
      ∃ (status : Status) (k : Nat) (hit : Option Obstacle),
        e.lastResult = some ⟨status, k, hit⟩ ∧ k ≤ steps.length ∧ committed = steps.take k ∧
        e.totalSteps = steps.length ∧ (status = .stopped ↔ asked = true) ∧
        (asked = false → status = .completed ∧ k = steps.length ∨
          ∃ c, steps[k]? = some c ∧ e.Refuses c obstacles status hit) ∧
        (success = true ↔ status = .completed ∨ status = .stopped)) := by
  have exactly := lives.exact harmless
  refine ⟨lives.flat, ?_, ?_⟩
  · rintro run delay rfl rfl
    exact Abreast.resume_asked exactly
  · rintro success rfl
    obtain ⟨status, hit, rest, result, program, total, succeeded, reason⟩ := exactly
    refine ⟨status, committed.length, hit, result, ?_, ?_, total, ?_, ?_, ?_⟩
    · simp [program]
    · simp [program]
    · rcases reason with ⟨wasAsked, stopped⟩ | ⟨unasked, ⟨-, completed⟩ | ⟨c, later, -, refuses⟩⟩
      · simp [wasAsked, stopped]
      · simp [unasked, completed]
      · rcases refused_status refuses with obstacle | boundary
        · simp [unasked, obstacle]
        · simp [unasked, boundary]
    · intro unasked
      rcases reason with ⟨wasAsked, -⟩ | ⟨-, ⟨ended, completed⟩ | ⟨c, later, left, refuses⟩⟩
      · rw [unasked] at wasAsked
        cases wasAsked
      · exact .inl ⟨completed, by simp [program, ended]⟩
      · exact .inr ⟨c, by simp [program, left], refuses⟩
    · rw [succeeded]
      exact succeeded_iff status

/-- An observer asks for a stop when it is shown the second step, the last one. -/
private def watchedEngine : Engine :=
  (Engine.placed ⟨40.0, 30.0, 0.0⟩).withObservers (·.subscribe "pacer" [⟨1, .stop⟩])

private def penLifts : List Command := [⟨.penUp, none, [], 1, 1⟩, ⟨.penUp, none, [], 1, 4⟩]

/-- A stop after the last step, with a change of color before it: both commands were committed. -/
theorem stop_is_exact_after_last_step :
    ∃ e, Lives watchedEngine penLifts [] penLifts penLifts true (.returned true) e ∧
      ∃ (status : Status) (k : Nat) (hit : Option Obstacle),
        e.lastResult = some ⟨status, k, hit⟩ ∧ k ≤ penLifts.length ∧
        penLifts = penLifts.take k ∧ e.totalSteps = penLifts.length ∧
        (status = .stopped ↔ true = true) ∧
        (true = false → status = .completed ∧ k = penLifts.length ∨
          ∃ c, penLifts[k]? = some c ∧ e.Refuses c [] status hit) ∧
        (true = true ↔ status = .completed ∨ status = .stopped) := by
  have harmless : watchedEngine.observers.Give Response.Harmless := by
    intro entry member reaction inside
    cases List.mem_singleton.mp member
    cases List.mem_singleton.mp inside
    exact trivial
  have accepted : watchedEngine.accept penLifts = .ok penLifts := rfl
  have first : Lives watchedEngine penLifts [] penLifts _ _ (.suspended _ _) _ := .started accepted
  have colored := first.interrupted (show (Operation.setColor "#FFFFFF").interrupts = true from rfl)
  have second : Lives watchedEngine penLifts [] penLifts _ _ (.suspended _ _) _ := colored.resumed
  have lives : Lives watchedEngine penLifts [] penLifts penLifts true (.returned true) _ :=
    second.resumed
  exact ⟨_, lives, (stop_is_exact _ _ _ harmless _ _ _ _ _ lives).2.2 true rfl⟩

end TurtleScript
