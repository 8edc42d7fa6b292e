import TurtleScript.Engine.Notify

/-!
What notifications keep. Observers act on the engine that tells them, and a reset tells them again
from inside, so nothing about a notification can be read off one observer. A relation between
engines that every single response keeps is kept by whole notifications, however deep they nest and
wherever they fail. No run is mentioned here: the flags of a run are fields like any other.
-/
namespace TurtleScript

/-! ## What single commands leave alone -/

namespace Engine

variable (e : Engine) (effect : Effect)

@[simp] theorem commit_width : (e.commit effect).width = e.width := by cases effect <;> rfl

@[simp] theorem commit_height : (e.commit effect).height = e.height := by cases effect <;> rfl

@[simp] theorem commit_palette : (e.commit effect).palette = e.palette := by cases effect <;> rfl

@[simp] theorem commit_active : (e.commit effect).active = e.active := by cases effect <;> rfl

@[simp] theorem commit_running : (e.commit effect).running = e.running := by cases effect <;> rfl

@[simp] theorem commit_currentStep : (e.commit effect).currentStep = e.currentStep := by
  cases effect <;> rfl

@[simp] theorem commit_totalSteps : (e.commit effect).totalSteps = e.totalSteps := by
  cases effect <;> rfl

@[simp] theorem commit_lastResult : (e.commit effect).lastResult = e.lastResult := by
  cases effect <;> rfl

@[simp] theorem commit_observers : (e.commit effect).observers = e.observers := by
  cases effect <;> rfl

/-- An applied command has an effect, which is committed. -/
theorem apply_eq_ok {e after : Engine} {c : Command} {success : Bool}
    (applied : e.apply c = .ok (success, after)) :
    ∃ effect, e.effect c = .ok effect ∧ success = effect.done ∧ after = e.commit effect := by
  unfold apply at applied
  cases found : e.effect c with
  | error error => simp [found] at applied
  | ok effect =>
    simp only [found, Except.ok.injEq, Prod.mk.injEq] at applied
    exact ⟨effect, rfl, applied.1.symm, applied.2.symm⟩

theorem apply_eq_error {e : Engine} {c : Command} {error : EngineError}
    (refused : e.apply c = .error error) : e.effect c = .error error := by
  unfold apply at refused
  cases found : e.effect c with
  | error error => simpa [found] using refused
  | ok effect => simp [found] at refused

/-- A movement leads nowhere because its value is missing or a number cannot be used. -/
theorem destination_error {e : Engine} {c : Command} {error : EngineError}
    (refused : e.destination c = .error error) :
    error = .missingValue c ∨ ∃ fault, error = .number fault := by
  unfold destination at refused
  cases given : c.value with
  | none =>
    simp only [given] at refused
    cases refused
    exact .inl rfl
  | some value =>
    simp only [given] at refused
    split at refused
    · cases refused
      exact .inr ⟨_, rfl⟩
    · split at refused
      · cases refused
        exact .inr ⟨_, rfl⟩
      · cases refused

private theorem turnEffect_error {c : Command} {turned : Float → Float} {error : EngineError}
    (refused : turnEffect c turned = .error error) :
    error = .missingValue c ∨ ∃ fault, error = .number fault := by
  unfold turnEffect at refused
  repeat' split at refused
  all_goals cases refused
  · exact .inl rfl
  · exact .inr ⟨_, rfl⟩

/-- A command is refused because its value is missing, because a number cannot be used, or because
it is no single step. -/
theorem effect_error {e : Engine} {c : Command} {error : EngineError}
    (refused : e.effect c = .error error) :
    error = .missingValue c ∨ error = .notAStep c ∨ ∃ fault, error = .number fault := by
  unfold effect at refused
  split at refused
  case h_3 => exact (turnEffect_error refused).imp_right .inr
  case h_4 => exact (turnEffect_error refused).imp_right .inr
  case h_5 | h_6 | h_7 => cases refused
  case h_8 =>
    repeat' split at refused
    all_goals cases refused
    · exact .inl rfl
    · exact .inr (.inr ⟨_, rfl⟩)
  case h_9 | h_10 =>
    cases refused
    exact .inr (.inl rfl)
  all_goals
    cases leads : e.destination c with
    | ok p => simp [leads] at refused
    | error found =>
      simp only [leads, Except.error.injEq] at refused
      exact refused ▸ (destination_error leads).imp_right .inr

end Engine

/-! ## The responses that observers have left -/

namespace Observers

/-- All responses that observers may still give are allowed. -/
def Give (o : Observers) (allowed : Response → Prop) : Prop :=
  ∀ entry ∈ o.reactions, ∀ reaction ∈ entry.2, allowed reaction.response

variable {o : Observers} {allowed : Response → Prop}

/-- The reactions that an observer still has. -/
def known (o : Observers) (name : String) : List Reaction :=
  (o.reactions.lookup name).getD []

private theorem mem_of_known {name : String} {reaction : Reaction}
    (member : reaction ∈ o.known name) : ∃ entry ∈ o.reactions, reaction ∈ entry.2 := by
  unfold known at member
  cases found : o.reactions.lookup name with
  | none => simp [found] at member
  | some reactions =>
    obtain ⟨before, after, split, _⟩ := List.lookup_eq_some_iff.mp found
    exact ⟨(name, reactions), by simp [split], by simpa [found] using member⟩

theorem Give.known (give : o.Give allowed) {name : String} {reaction : Reaction}
    (member : reaction ∈ o.known name) : allowed reaction.response := by
  obtain ⟨entry, present, inside⟩ := mem_of_known member
  exact give entry present reaction inside

theorem Give.due (give : o.Give allowed) {name : String} {step : Int} :
    ∀ reaction ∈ (o.takeDue name step).1, allowed reaction.response :=
  fun _ member => give.known (List.mem_filter.mp member).1

theorem Give.takeDue (give : o.Give allowed) (name : String) (step : Int) :
    (o.takeDue name step).2.Give allowed := by
  intro entry member reaction inside
  obtain ⟨old, present, rfl⟩ := List.mem_map.mp member
  split at inside
  · exact give.known (List.mem_filter.mp inside).1
  · exact give old present reaction inside

theorem Give.subscribe (give : o.Give allowed) (name : String) {reactions : List Reaction}
    (more : ∀ reaction ∈ reactions, allowed reaction.response) :
    (o.subscribe name reactions).Give allowed := by
  intro entry member reaction inside
  simp only [Observers.subscribe] at member
  split at member
  · exact give entry member reaction inside
  · rcases List.mem_append.mp member with old | new
    · exact give entry old reaction inside
    · cases List.mem_singleton.mp new
      exact more reaction inside

theorem Give.unsubscribe (give : o.Give allowed) (ticket : Nat) :
    (o.unsubscribe ticket).Give allowed := by
  unfold Observers.unsubscribe
  split <;> exact give

end Observers

/-! ## Lifting to notifications -/

namespace Engine

/-- A relation between an engine and what an operation makes of it that no allowed response breaks.
A response may notify again; the relation may be assumed of that. -/
structure Borne (allowed : Response → Prop) (kept : Engine → Result Unit → Prop) : Prop where
  /-- Doing nothing keeps it. -/
  still (e : Engine) : kept e (.ok (), e)
  /-- It is kept step by step. -/
  next {a b : Engine} {result : Result Unit} :
    kept a (.ok (), b) → kept b result → kept a result
  /-- Telling observers keeps it. -/
  observers (e : Engine) (observers : Observers) : kept e (.ok (), { e with observers })
  /-- Every allowed response keeps it. -/
  response {tell : Engine → Result Unit} {e : Engine} {r : Response} (name : String) : allowed r →
    (∀ e, e.observers.Give allowed → kept e (tell e)) → e.observers.Give allowed →
    kept e (e.respond tell name r)

section Lifting

variable {allowed : Response → Prop} {kept : Engine → Result Unit → Prop}
  {tell : Engine → Result Unit}

/-- What an operation makes of an engine keeps the relation, and leaves only allowed responses. -/
private def Kept (allowed : Response → Prop) (kept : Engine → Result Unit → Prop) (e : Engine)
    (result : Result Unit) : Prop :=
  kept e result ∧ result.2.observers.Give allowed

/-- Another operation after one that succeeded. -/
private theorem kept_then (borne : Borne allowed kept) {e : Engine} {first : Result Unit}
    {later : Engine → Result Unit} (begun : Kept allowed kept e first)
    (goes : ∀ e, e.observers.Give allowed → Kept allowed kept e (later e)) :
    Kept allowed kept e (match first with
      | (.error error, after) => (.error error, after)
      | (.ok _, after) => later after) := by
  obtain ⟨answer, after⟩ := first
  cases answer with
  | error error => exact begun
  | ok _ => exact ⟨borne.next begun.1 (goes after begun.2).1, (goes after begun.2).2⟩

private theorem respond_gives
    (told : ∀ e : Engine, e.observers.Give allowed → (tell e).2.observers.Give allowed)
    (name : String) (r : Response) {e : Engine} (give : e.observers.Give allowed) :
    (e.respond tell name r).2.observers.Give allowed := by
  cases r with
  | stop | fail | misuse | color => exact give
  | reset start =>
    simp only [respond, resetWith]
    split
    · exact give
    · exact told (e.restart _) give
  | apply command =>
    simp only [respond]
    split
    · exact give
    · rename_i applied
      obtain ⟨effect, -, -, rfl⟩ := apply_eq_ok applied
      rw [commit_observers]
      exact give
  | unsubscribe ticket => exact give.unsubscribe ticket
  | subscribe other => exact give.subscribe other nofun
  | start =>
    simp only [respond]
    split <;> exact give

variable (borne : Borne allowed kept)
  (told : ∀ e : Engine, e.observers.Give allowed → Kept allowed kept e (tell e))

include borne told in
private theorem respondAll_kept (name : String) (reactions : List Reaction) (e : Engine)
    (due : ∀ reaction ∈ reactions, allowed reaction.response) (give : e.observers.Give allowed) :
    Kept allowed kept e (respondAll tell name e reactions) := by
  induction reactions generalizing e with
  | nil => exact ⟨borne.still e, give⟩
  | cons reaction rest ih =>
    have first := borne.response name (due reaction (by simp)) (fun e give => (told e give).1) give
    have gives := respond_gives (fun e give => (told e give).2) name reaction.response give
    exact kept_then borne ⟨first, gives⟩
      (fun after give => ih after (fun r member => due r (by simp [member])) give)

include borne told in
private theorem tellOne_kept (snapshot : Snapshot) (name : String) (e : Engine)
    (give : e.observers.Give allowed) : Kept allowed kept e (e.tellOne tell snapshot name) := by
  have noted : (e.observers.note (.shown name snapshot)).Give allowed := give
  have taken := noted.takeDue name snapshot.currentStep
  obtain ⟨responded, gives⟩ :=
    respondAll_kept borne told name _ { e with observers := _ } noted.due taken
  exact ⟨borne.next (borne.observers e _) responded, gives⟩

include borne told in
private theorem tellEach_kept (snapshot : Snapshot) (names : List String) (e : Engine)
    (give : e.observers.Give allowed) : Kept allowed kept e (tellEach tell snapshot e names) := by
  induction names generalizing e with
  | nil => exact ⟨borne.still e, give⟩
  | cons name rest ih => exact kept_then borne (tellOne_kept borne told snapshot name e give) ih

include borne in
private theorem notifyWithin_kept (depth : Nat) (e : Engine) (give : e.observers.Give allowed) :
    Kept allowed kept e (notifyWithin depth e) := by
  induction depth generalizing e with
  | zero => exact ⟨borne.still e, give⟩
  | succ depth ih => exact tellEach_kept borne ih e.snapshot _ e give

include borne in
/-- What no allowed response breaks is kept by a notification. -/
theorem notify_keeps {e : Engine} (give : e.observers.Give allowed) :
    kept e e.notify ∧ e.notify.2.observers.Give allowed :=
  notifyWithin_kept borne _ e give

end Lifting

/-! ## The flags of a run -/

/-- The second engine is in the same run as the first, which may only have been asked to stop: no
observer ends a run, records a result or sets a run going. -/
structure Steady (a b : Engine) : Prop where
  active : b.active = a.active
  totalSteps : b.totalSteps = a.totalSteps
  lastResult : b.lastResult = a.lastResult
  -- A reset also makes it leave its step.
  flags : b.running = a.running ∧ b.currentStep = a.currentStep ∨
    b.running = false ∧ (b.currentStep = a.currentStep ∨ b.currentStep = -1)

namespace Steady

variable {a b c : Engine}

theorem refl (e : Engine) : Steady e e := ⟨rfl, rfl, rfl, .inl ⟨rfl, rfl⟩⟩

theorem trans (first : Steady a b) (second : Steady b c) : Steady a c := by
  refine ⟨second.active.trans first.active, second.totalSteps.trans first.totalSteps,
    second.lastResult.trans first.lastResult, ?_⟩
  obtain ⟨running, step⟩ | ⟨stopped, step⟩ := second.flags
  · rw [running, step]
    exact first.flags
  · refine .inr ⟨stopped, ?_⟩
    rcases step with step | step
    · rw [step]
      rcases first.flags with ⟨-, same⟩ | ⟨-, same⟩
      · exact .inl same
      · exact same
    · exact .inr step

/-- A run that still goes on went on before, and is at the same step. -/
theorem of_running (steady : Steady a b) (running : b.running = true) :
    a.running = true ∧ b.currentStep = a.currentStep := by
  rcases steady.flags with ⟨same, step⟩ | ⟨stopped, _⟩
  · exact ⟨same ▸ running, step⟩
  · rw [running] at stopped
    cases stopped

/-- A run that was asked to stop does not go on again. -/
theorem of_stopped (steady : Steady a b) (stopped : a.running = false) : b.running = false := by
  rcases steady.flags with ⟨same, -⟩ | ⟨ended, -⟩
  · exact same.trans stopped
  · exact ended

theorem step_cases (steady : Steady a b) :
    b.currentStep = a.currentStep ∨ b.currentStep = -1 := by
  rcases steady.flags with ⟨-, step⟩ | ⟨-, step⟩
  · exact .inl step
  · exact step

end Steady

theorem commit_steady (e : Engine) (effect : Effect) : Steady e (e.commit effect) :=
  ⟨by simp, by simp, by simp, .inl (by simp)⟩

theorem restart_steady (e : Engine) (pose : Pose) : Steady e (e.restart pose) :=
  ⟨rfl, rfl, rfl, .inr ⟨rfl, .inr rfl⟩⟩

private theorem steady_respond {tell : Engine → Result Unit} {e : Engine} (name : String)
    (r : Response) (told : ∀ e, Steady e (tell e).2 ∧ (tell e).1 ≠ .error .inProgress) :
    Steady e (e.respond tell name r).2 ∧ (e.respond tell name r).1 ≠ .error .inProgress := by
  cases r with
  | stop => exact ⟨⟨rfl, rfl, rfl, .inr ⟨rfl, .inl rfl⟩⟩, nofun⟩
  | fail | misuse | color | unsubscribe | subscribe =>
    exact ⟨⟨rfl, rfl, rfl, .inl ⟨rfl, rfl⟩⟩, nofun⟩
  | reset start =>
    simp only [respond, resetWith]
    split
    · exact ⟨.refl e, nofun⟩
    · exact ⟨(restart_steady e _).trans (told _).1, (told _).2⟩
  | apply command =>
    simp only [respond]
    split
    · rename_i refused
      refine ⟨.refl e, ?_⟩
      rintro ⟨rfl⟩
      obtain impossible | impossible | ⟨_, impossible⟩ := effect_error (apply_eq_error refused)
      all_goals cases impossible
    · rename_i applied
      obtain ⟨effect, -, -, rfl⟩ := apply_eq_ok applied
      exact ⟨commit_steady e effect, nofun⟩
  | start =>
    simp only [respond]
    split <;> exact ⟨⟨rfl, rfl, rfl, .inl ⟨rfl, rfl⟩⟩, nofun⟩

/-- A notification leaves the run as it is, except that it may be asked to stop; and it does not
fail because a run is under way. -/
theorem notify_steady (e : Engine) :
    Steady e e.notify.2 ∧ e.notify.1 ≠ .error .inProgress := by
  have borne : Borne (fun _ => True)
      (fun e result => Steady e result.2 ∧ result.1 ≠ .error .inProgress) :=
    { still := fun e => ⟨.refl e, nofun⟩
      next := fun first second => ⟨first.1.trans second.1, second.2⟩
      observers := fun _ _ => ⟨⟨rfl, rfl, rfl, .inl ⟨rfl, rfl⟩⟩, nofun⟩
      response := by
        intro tell e r name _ told _
        exact steady_respond name r fun e => told e fun _ _ _ _ => trivial }
  exact (notify_keeps borne fun _ _ _ _ => trivial).1

theorem reset_steady (e : Engine) (start : Option Pose) : Steady e (e.reset start).2 := by
  unfold reset resetWith
  split
  · exact .refl e
  · exact (restart_steady e _).trans (notify_steady _).1

end Engine

/-! ## Silence -/

/-- No observer has a response for a step. -/
def Observers.SilentAt (o : Observers) (step : Int) : Prop :=
  ∀ entry ∈ o.reactions, ∀ reaction ∈ entry.2, reaction.atStep ≠ step

private theorem Observers.takeDue_silent {o : Observers} {step : Int} (silent : o.SilentAt step)
    (name : String) : (o.takeDue name step).1 = [] := by
  apply List.filter_eq_nil_iff.mpr
  intro reaction member
  obtain ⟨entry, present, inside⟩ := mem_of_known member
  simpa using silent entry present reaction inside

private theorem Observers.SilentAt.takeDue {o : Observers} {step : Int}
    (silent : o.SilentAt step) (name : String) (due : Int) :
    (o.takeDue name due).2.SilentAt step := by
  intro entry member reaction inside
  obtain ⟨old, present, rfl⟩ := List.mem_map.mp member
  split at inside
  · obtain ⟨entry, known, within⟩ := mem_of_known (List.mem_filter.mp inside).1
    exact silent entry known reaction within
  · exact silent old present reaction inside

namespace Engine

/-- Observers who are silent are shown a snapshot, and nothing else happens. -/
private theorem tellEach_silent (tell : Engine → Result Unit) (snapshot : Snapshot) (e : Engine)
    (names : List String) (silent : e.observers.SilentAt snapshot.currentStep) :
    ∃ observers, tellEach tell snapshot e names = (.ok (), { e with observers }) ∧
      ∀ step, e.observers.SilentAt step → observers.SilentAt step := by
  induction names generalizing e with
  | nil => exact ⟨e.observers, rfl, fun _ silent => silent⟩
  | cons name rest ih =>
    let noted := e.observers.note (.shown name snapshot)
    let taken := (noted.takeDue name snapshot.currentStep).2
    have still : e.tellOne tell snapshot name = (.ok (), { e with observers := taken }) := by
      have none : (noted.takeDue name snapshot.currentStep).1 = [] :=
        Observers.takeDue_silent silent name
      simp only [tellOne]
      rw [none]
      rfl
    have kept : ∀ step, e.observers.SilentAt step → taken.SilentAt step :=
      fun step silent => Observers.SilentAt.takeDue (o := noted) silent name _
    obtain ⟨observers, told, later⟩ := ih { e with observers := taken } (kept _ silent)
    refine ⟨observers, ?_, fun step silent => later step (kept step silent)⟩
    simp only [tellEach, still]
    exact told

/-- A notification of observers who are silent at the current step changes nothing but what they
have been shown, and they are as silent at other steps as they were. -/
theorem notify_silent {e : Engine} (silent : e.observers.SilentAt e.currentStep) :
    ∃ observers, e.notify = (.ok (), { e with observers }) ∧
      ∀ step, e.observers.SilentAt step → observers.SilentAt step :=
  tellEach_silent _ e.snapshot e _ silent

end Engine

end TurtleScript
