import Mathlib.Logic.Relation
import TurtleScript.Proofs.History

/-!
What can become of an engine. Operations, runs and observers touch the turtle and the drawing by few
changes: a command takes effect, the turtle starts over, a color or a pen is chosen. All else leaves
the scene alone. This is said once for whole sessions, so that what every single change keeps is
kept by all that can happen. Notifications nest, and each hands out a snapshot; every snapshot that
was handed out is one of an engine between two changes.
-/
namespace TurtleScript

namespace Engine

/-! ## Single changes -/

/-- The canvas, the colors to choose from, the turtle and the drawings are the same. -/
structure SameScene (a b : Engine) : Prop where
  width : b.width = a.width
  height : b.height = a.height
  palette : b.palette = a.palette
  turtle : b.turtle = a.turtle
  penChoices : b.penChoices = a.penChoices
  drawings : b.drawings = a.drawings

/-- One change of an engine. -/
inductive Change (e : Engine) : Engine → Prop
  | effect {c : Command} {effect : Effect} (found : e.effect c = .ok effect) :
    Change e (e.commit effect)
  | restart (pose : Pose) : Change e (e.restart pose)
  | setColor (color : String) : Change e (e.setColor color)
  | setPenSize (size : Float) : Change e (e.setPenSize size)
  | aside {after : Engine} (same : e.SameScene after) : Change e after

/-- An engine becomes another one by changes in order. -/
def Becomes : Engine → Engine → Prop := Relation.ReflTransGen Change

namespace Becomes

variable {a b c : Engine}

theorem refl (e : Engine) : e.Becomes e := Relation.ReflTransGen.refl

theorem trans (first : a.Becomes b) (second : b.Becomes c) : a.Becomes c :=
  Relation.ReflTransGen.trans first second

theorem of_change (change : a.Change b) : a.Becomes b := Relation.ReflTransGen.single change

/-- A relation that holds of single changes, and step by step, holds of all that an engine
becomes. -/
theorem lift (kept : Engine → Engine → Prop) (still : ∀ e, kept e e)
    (next : ∀ {a b c}, kept a b → kept b c → kept a c) (change : ∀ {a b}, a.Change b → kept a b)
    (becomes : a.Becomes b) : kept a b := by
  induction becomes with
  | refl => exact still a
  | tail _ last ih => exact next ih (change last)

end Becomes

/-! ## Snapshots on the way -/

/-- The second engine comes from the first one by changes, and each snapshot that an observer was
shown on the way is that of an engine between them. -/
structure Evolves (a b : Engine) : Prop where
  becomes : a.Becomes b
  shown : ∀ name snapshot, .shown name snapshot ∈ b.observers.events →
    .shown name snapshot ∈ a.observers.events ∨
      ∃ moment : Engine, snapshot = moment.snapshot ∧ a.Becomes moment ∧ moment.Becomes b

namespace Evolves

variable {a b c : Engine}

theorem refl (e : Engine) : e.Evolves e := ⟨.refl e, fun _ _ told => .inl told⟩

theorem trans (first : a.Evolves b) (second : b.Evolves c) : a.Evolves c := by
  refine ⟨first.becomes.trans second.becomes, ?_⟩
  intro name snapshot told
  rcases second.shown name snapshot told with before | ⟨moment, taken, since, onward⟩
  · rcases first.shown name snapshot before with earlier | ⟨moment, taken, since, onward⟩
    · exact .inl earlier
    · exact .inr ⟨moment, taken, since, onward.trans second.becomes⟩
  · exact .inr ⟨moment, taken, first.becomes.trans since, onward⟩

/-- A change of which nobody is told. -/
theorem of_change (change : a.Change b) (untold : b.observers.events = a.observers.events) :
    a.Evolves b :=
  ⟨.of_change change, fun _ _ told => .inl (untold ▸ told)⟩

end Evolves

variable {e : Engine} {tell : Engine → Result Unit}

private theorem respond_evolves (told : ∀ e : Engine, e.Evolves (tell e).2) (name : String)
    (r : Response) : e.Evolves (e.respond tell name r).2 := by
  cases r with
  | stop | fail | misuse => exact .of_change (.aside ⟨rfl, rfl, rfl, rfl, rfl, rfl⟩) rfl
  | reset start =>
    simp only [respond, resetWith]
    split
    · exact .refl e
    · exact (Evolves.of_change (.restart _) rfl).trans (told _)
  | color color => exact .of_change (.setColor color) rfl
  | apply command =>
    simp only [respond]
    split
    · exact .refl e
    · rename_i applied
      obtain ⟨effect, found, -, rfl⟩ := apply_eq_ok applied
      exact .of_change (.effect found) (by simp)
  | unsubscribe ticket =>
    refine .of_change (.aside ⟨rfl, rfl, rfl, rfl, rfl, rfl⟩) ?_
    simp only [respond, withObservers, Observers.unsubscribe]
    split <;> rfl
  | subscribe other => exact .of_change (.aside ⟨rfl, rfl, rfl, rfl, rfl, rfl⟩) rfl
  | start =>
    simp only [respond]
    split
    · refine ⟨.of_change (.aside ⟨rfl, rfl, rfl, rfl, rfl, rfl⟩), ?_⟩
      intro other snapshot shown
      rcases Array.mem_push.mp shown with before | impossible
      · exact .inl before
      · cases impossible
    · exact .refl e

private theorem respondAll_evolves (told : ∀ e : Engine, e.Evolves (tell e).2) (name : String)
    (reactions : List Reaction) (e : Engine) :
    e.Evolves (respondAll tell name e reactions).2 := by
  induction reactions generalizing e with
  | nil => exact .refl e
  | cons reaction rest ih =>
    have first := respond_evolves (e := e) told name reaction.response
    simp only [respondAll]
    cases responded : e.respond tell name reaction.response with
    | mk answer after =>
      rw [responded] at first
      cases answer with
      | error error => exact first
      | ok _ => exact first.trans (ih after)

/-- An observer is shown a snapshot of the engine at which the notification began. -/
private theorem tellOne_evolves (told : ∀ e : Engine, e.Evolves (tell e).2) {began : Engine}
    (since : began.Evolves e) (name : String) :
    began.Evolves (e.tellOne tell began.snapshot name).2 := by
  let noted := e.observers.note (.shown name began.snapshot)
  let taken := (noted.takeDue name began.snapshot.currentStep).2
  have becomes : began.Becomes { e with observers := taken } :=
    since.becomes.trans (.of_change (.aside ⟨rfl, rfl, rfl, rfl, rfl, rfl⟩))
  have shown : began.Evolves { e with observers := taken } := by
    refine ⟨becomes, ?_⟩
    intro other snapshot told
    rcases Array.mem_push.mp told with before | now
    · rcases since.shown other snapshot before with earlier | ⟨moment, own, after, onward⟩
      · exact .inl earlier
      · refine .inr ⟨moment, own, after, onward.trans ?_⟩
        exact .of_change (.aside ⟨rfl, rfl, rfl, rfl, rfl, rfl⟩)
    · cases now
      exact .inr ⟨began, rfl, .refl began, becomes⟩
  exact shown.trans (respondAll_evolves told name _ _)

private theorem tellEach_evolves (told : ∀ e : Engine, e.Evolves (tell e).2) {began : Engine}
    (names : List String) (since : began.Evolves e) :
    began.Evolves (tellEach tell began.snapshot e names).2 := by
  induction names generalizing e with
  | nil => exact since
  | cons name rest ih =>
    have first := tellOne_evolves told since name
    simp only [tellEach]
    cases one : e.tellOne tell began.snapshot name with
    | mk answer after =>
      rw [one] at first
      cases answer with
      | error error => exact first
      | ok _ => exact ih first

private theorem notifyWithin_evolves (depth : Nat) (e : Engine) :
    e.Evolves (notifyWithin depth e).2 := by
  induction depth generalizing e with
  | zero => exact .refl e
  | succ depth ih => exact tellEach_evolves ih _ (.refl e)

/-- Whatever observers do, the engine evolves. -/
theorem notify_evolves (e : Engine) : e.Evolves e.notify.2 := notifyWithin_evolves _ e

theorem reset_evolves (e : Engine) (start : Option Pose) : e.Evolves (e.reset start).2 := by
  unfold reset resetWith
  split
  · exact .refl e
  · exact (Evolves.of_change (.restart _) rfl).trans (notify_evolves _)

/-! ## Runs -/

/-- An engine that ends a run tells its observers of nothing but that. -/
private theorem ended_evolves (e : Engine) (status : Status) (step : Int)
    (hit : Option Obstacle) : e.Evolves (e.record status step hit).idle.notify.2 := by
  have ended : e.Evolves (e.record status step hit).idle :=
    .of_change (.aside ⟨rfl, rfl, rfl, rfl, rfl, rfl⟩) rfl
  exact ended.trans (notify_evolves _)

theorem cancel_evolves (e : Engine) : e.Evolves e.cancel.2 := by
  rw [cancel_engine]
  exact ended_evolves e .stopped e.currentStep none

theorem idle_evolves (e : Engine) : e.Evolves e.idle :=
  .of_change (.aside ⟨rfl, rfl, rfl, rfl, rfl, rfl⟩) rfl

@[simp] theorem stepped_observers (e : Engine) (index : Nat) (effect : Effect) :
    (e.stepped index effect).observers = e.observers := by
  simp [stepped]

theorem stepped_evolves {c : Command} {effect : Effect} (index : Nat)
    (found : e.effect c = .ok effect) : e.Evolves (e.stepped index effect) := by
  have same : { e with currentStep := index }.effect c = .ok effect := found
  have numbered : e.Evolves { e with currentStep := index } :=
    .of_change (.aside ⟨rfl, rfl, rfl, rfl, rfl, rfl⟩) rfl
  exact numbered.trans (.of_change (.effect same) (by simp [stepped]))

/-- After a step is made, its observers are told. -/
theorem committed_evolves {run : Run} {c : Command} {effect : Effect} {rest : List Command}
    (verdict : e.verdict run = .commits c effect rest) :
    (e.stepped run.index effect).Evolves (e.resume run).2 := by
  have told := notify_evolves (e.stepped run.index effect)
  rw [resume_eq, verdict]
  obtain after | after := commits_engine e run c effect rest
  · rw [after]
    exact told
  · rw [after]
    exact told.trans (idle_evolves _)

theorem resume_evolves (e : Engine) (run : Run) : e.Evolves (e.resume run).2 := by
  cases verdict : e.verdict run with
  | ends status hit =>
    rw [resume_eq, verdict]
    simp only [carryOut, finish_engine]
    exact ended_evolves e status run.index hit
  | breaks error =>
    rw [resume_eq, verdict]
    exact idle_evolves e
  | commits c effect rest =>
    have found := (verdict_commits verdict).2.2.2.1
    exact (stepped_evolves run.index found).trans (committed_evolves verdict)

theorem pursue_evolves (more : Nat) (e : Engine) (run : Run) :
    e.Evolves (e.pursue more run).2 := by
  induction more generalizing e run with
  | zero => exact resume_evolves e run
  | succ more ih =>
    have first := resume_evolves e run
    simp only [pursue]
    cases resumed : e.resume run with
    | mk progress after =>
      rw [resumed] at first
      cases progress with
      | suspended next delay => exact first.trans (ih after next)
      | returned | raised => exact first

theorem Touches.evolves {after : Engine} {operation : Operation}
    (touched : e.Touches operation after) : e.Evolves after := by
  cases touched with
  | start | execute | resume | finish | cancel | refused => exact .refl e
  | stop | setSpeed | subscribe => exact .of_change (.aside ⟨rfl, rfl, rfl, rfl, rfl, rfl⟩) rfl
  | setColor color => exact .of_change (.setColor color) rfl
  | setPenSize size => exact .of_change (.setPenSize size) rfl
  | reset start => exact e.reset_evolves start
  | apply found => exact .of_change (.effect found) (by simp)
  | unsubscribe ticket =>
    refine .of_change (.aside ⟨rfl, rfl, rfl, rfl, rfl, rfl⟩) ?_
    simp only [withObservers, Observers.unsubscribe]
    split <;> rfl

end Engine

/-! ## Sessions -/

namespace Session

/-- Every operation makes the engine evolve. -/
theorem perform_evolves (s : Session) (operation : Operation) :
    s.engine.Evolves (s.perform operation).2.engine := by
  cases s.perform_does operation with
  | @pursues first more pursued left =>
    have begun : s.engine.Evolves first.engine := by
      obtain ⟨_, steps, _, -, rfl⟩ | ⟨_, -, rfl⟩ := pursuit_cases pursued
      · exact .of_change (.aside ⟨rfl, rfl, rfl, rfl, rfl, rfl⟩) rfl
      · exact .refl _
    rw [left]
    exact begun.trans (Engine.pursue_evolves more first.engine first.run)
  | cancels _ cancel left =>
    subst cancel
    rw [left]
    exact s.engine.cancel_evolves
  | touches _ _ touched _ => exact touched.evolves

/-- Operations in any order make the engine evolve. -/
theorem performAll_evolves (s : Session) (operations : List Operation) :
    s.engine.Evolves (s.performAll operations).engine := by
  induction operations generalizing s with
  | nil => exact .refl _
  | cons operation rest ih => exact (s.perform_evolves operation).trans (ih _)

end Session

end TurtleScript
