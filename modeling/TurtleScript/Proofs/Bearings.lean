import TurtleScript.Proofs.Applying
import TurtleScript.Proofs.Budget
import TurtleScript.Proofs.FullTurns

/-!
Headings stay in range. A turn by a finite number of degrees, or a start at a finite angle, gives a
heading from 0 to below 360, and movements take the heading over. So whatever is done with an engine
by finite values, its turtle heads in that range, and so does the turtle on every snapshot that an
observer was shown.
-/
namespace TurtleScript

/-! ## Finite values -/

/-- A whole number, or a double-precision one that is finite. -/
def Number.IsFinite : Number → Prop
  | .whole _ => True
  | .real x => x.isFinite = true

instance : DecidablePred Number.IsFinite
  | .whole _ => isTrue trivial
  | .real x => inferInstanceAs (Decidable (x.isFinite = true))

/-- What a finite number is measured as is finite. -/
theorem Number.IsFinite.toFloat {value : Number} {x : Float} (finite : value.IsFinite)
    (measured : value.toFloat = .ok x) : x.isFinite = true := by
  cases value with
  | whole n =>
    simp only [Number.toFloat] at measured
    split at measured
    · rename_i number
      cases measured
      exact number
    · cases measured
  | real y =>
    cases measured
    exact finite

/-- All values in the tree of a command are finite. -/
inductive Command.FiniteValues : Command → Prop
  | node {c : Command} (own : ∀ value, c.value = some value → value.IsFinite)
    (body : ∀ b ∈ c.body, b.FiniteValues) : c.FiniteValues

/-- A response that has finite values. -/
def Response.FiniteValues : Response → Prop
  | .apply c => c.FiniteValues
  | .reset (some pose) => pose.angle.isFinite = true
  | _ => True

/-- An operation that has finite values, also in what it tells observers to do. -/
def Operation.FiniteValues : Operation → Prop
  | .start commands _ | .execute commands _ => ∀ c ∈ commands, c.FiniteValues
  | .apply c => c.FiniteValues
  | .reset (some pose) => pose.angle.isFinite = true
  | .subscribe _ reactions => ∀ reaction ∈ reactions, reaction.response.FiniteValues
  | _ => True

namespace Command

mutual

private theorem expand_finite : (c : Command) → c.FiniteValues →
    ∀ step ∈ c.expand, step.FiniteValues
  | ⟨kind, value, body, line, column⟩, .node own inside => by
    intro step member
    unfold expand at member
    split at member
    · split at member
      · obtain ⟨copy, copied, present⟩ := List.mem_flatten.mp member
        rw [List.eq_of_mem_replicate copied] at present
        exact expandAll_finite body inside step present
      · cases member
    · rw [List.mem_singleton.mp member]
      exact .node own inside

/-- Commands that are written out have the values of their trees. -/
private theorem expandAll_finite : (commands : List Command) → (∀ c ∈ commands, c.FiniteValues) →
    ∀ step ∈ expandAll commands, step.FiniteValues
  | [], _ => nofun
  | c :: rest, finite => by
    intro step member
    rcases List.mem_append.mp member with first | later
    · exact expand_finite c (finite c (by simp)) step first
    · exact expandAll_finite rest (fun other known => finite other (by simp [known])) step later

end

end Command

/-! ## Engines -/

namespace Engine

variable {e : Engine}

private theorem accept_finite {commands steps : List Command}
    (finite : ∀ c ∈ commands, c.FiniteValues) (accepted : e.accept commands = .ok steps) :
    ∀ c ∈ steps, c.FiniteValues := by
  obtain ⟨-, rfl⟩ := (Command.flattenAll_ok_iff commands steps).mp (flat_of_accept accepted)
  exact Command.expandAll_finite commands finite

/-- A command that is obeyed keeps the heading in range: a turn brings it there, and a movement
takes it over. -/
private theorem Obeys.bearing {c : Command} {turtle : Turtle} {log : List Instruction}
    (obeys : e.Obeys c turtle log) (finite : c.FiniteValues) (bearing : Bearing e.turtle.pose.angle) :
    Bearing turtle.pose.angle := by
  obtain ⟨own, -⟩ := finite
  cases obeys with
  | left _ given measured => exact left_bearing bearing ((own _ given).toFloat measured)
  | right _ given measured => exact right_bearing bearing ((own _ given).toFloat measured)
  | moved | lifted | lowered | colored | cleared => exact bearing

/-- The turtle heads in range, now and on every snapshot that was shown, and the observers will
respond with finite values only. -/
structure Oriented (e : Engine) : Prop where
  heading : Bearing e.turtle.pose.angle
  shown : ∀ name snapshot, .shown name snapshot ∈ e.observers.events →
    Bearing snapshot.turtle.pose.angle
  responses : e.observers.Give Response.FiniteValues

private theorem commit_oriented {c : Command} {effect : Effect} (oriented : e.Oriented)
    (finite : c.FiniteValues) (found : e.effect c = .ok effect) : (e.commit effect).Oriented := by
  refine ⟨?_, ?_, ?_⟩
  · obtain ⟨-, obeys⟩ | ⟨rfl, -⟩ := effect_obeys found
    · exact obeys.bearing finite oriented.heading
    · exact oriented.heading
  · rw [commit_observers]
    exact oriented.shown
  · rw [commit_observers]
    exact oriented.responses

/-- What touches neither the pose nor the observers. -/
private theorem Oriented.of_same {after : Engine} (oriented : e.Oriented)
    (turtle : after.turtle.pose = e.turtle.pose) (observers : after.observers = e.observers) :
    after.Oriented := by
  refine ⟨?_, ?_, ?_⟩
  · rw [turtle]
    exact oriented.heading
  · rw [observers]
    exact oriented.shown
  · rw [observers]
    exact oriented.responses

/-- In the middle of a canvas a turtle heads to the right. -/
private theorem centerOf_angle {width height : Number} {pose : Pose}
    (found : centerOf width height = .ok pose) : pose.angle = 0.0 := by
  simp only [centerOf, bind, Except.bind] at found
  repeat' split at found
  all_goals cases found
  rfl

/-- A start at a finite angle; the middle of the canvas has one. -/
private theorem resetWith_oriented {tell : Engine → Result Unit}
    (told : ∀ e : Engine, e.Oriented → (tell e).2.Oriented) (start : Option Pose)
    (finite : ∀ pose, start = some pose → pose.angle.isFinite = true) (oriented : e.Oriented) :
    (e.resetWith tell start).2.Oriented := by
  unfold resetWith
  split
  · exact oriented
  · rename_i pose found
    have number : pose.angle.isFinite = true := by
      cases start with
      | some given =>
        cases found
        exact finite _ rfl
      | none =>
        rw [centerOf_angle found]
        decide +kernel
    exact told _ ⟨normalizeAngle_bearing number, oriented.shown, oriented.responses⟩

/-- Observers that come or go see nothing by it. -/
private theorem Oriented.unsubscribe (oriented : e.Oriented) (ticket : Nat) :
    (e.withObservers (·.unsubscribe ticket)).Oriented := by
  refine ⟨oriented.heading, ?_, oriented.responses.unsubscribe ticket⟩
  simp only [withObservers, Observers.unsubscribe]
  split <;> exact oriented.shown

private theorem Oriented.subscribe (oriented : e.Oriented) (name : String)
    {reactions : List Reaction} (finite : ∀ reaction ∈ reactions, reaction.response.FiniteValues) :
    (e.withObservers (·.subscribe name reactions)).Oriented :=
  ⟨oriented.heading, oriented.shown, oriented.responses.subscribe name finite⟩

private theorem respond_oriented {tell : Engine → Result Unit}
    (told : ∀ e : Engine, e.Oriented → (tell e).2.Oriented) (name : String) {r : Response}
    (finite : r.FiniteValues) (oriented : e.Oriented) :
    (e.respond tell name r).2.Oriented := by
  cases r with
  | stop | fail | misuse | color => exact oriented.of_same rfl rfl
  | reset start =>
    refine resetWith_oriented told start ?_ oriented
    rintro pose rfl
    exact finite
  | apply command =>
    simp only [respond]
    split
    · exact oriented
    · rename_i applied
      obtain ⟨effect, found, -, rfl⟩ := apply_eq_ok applied
      exact commit_oriented oriented finite found
  | unsubscribe ticket => exact oriented.unsubscribe ticket
  | subscribe other => exact oriented.subscribe other (by simp)
  | start =>
    simp only [respond]
    split
    · refine ⟨oriented.heading, ?_, oriented.responses⟩
      intro other snapshot shown
      have before : .shown other snapshot ∈ e.observers.events := by
        simpa [withObservers, Observers.note] using shown
      exact oriented.shown other snapshot before
    · exact oriented

section Notifications

variable {tell : Engine → Result Unit}
  (told : ∀ e : Engine, e.Oriented → (tell e).2.Oriented)

include told

private theorem respondAll_oriented (name : String) (reactions : List Reaction) (e : Engine)
    (finite : ∀ reaction ∈ reactions, reaction.response.FiniteValues) (oriented : e.Oriented) :
    (respondAll tell name e reactions).2.Oriented := by
  induction reactions generalizing e with
  | nil => exact oriented
  | cons reaction rest ih =>
    have first := respond_oriented told name (finite reaction (by simp)) oriented
    simp only [respondAll]
    split
    · rename_i responded
      rwa [responded] at first
    · rename_i responded
      rw [responded] at first
      exact ih _ (fun other member => finite other (by simp [member])) first

private theorem tellOne_oriented {snapshot : Snapshot} (seen : Bearing snapshot.turtle.pose.angle)
    (name : String) (oriented : e.Oriented) : (e.tellOne tell snapshot name).2.Oriented := by
  have noted : (e.observers.note (.shown name snapshot)).Give Response.FiniteValues :=
    oriented.responses
  refine respondAll_oriented told name _ _ noted.due ⟨oriented.heading, ?_, noted.takeDue _ _⟩
  intro other earlier shown
  rcases Array.mem_push.mp shown with before | now
  · exact oriented.shown other earlier before
  · cases now
    exact seen

private theorem tellEach_oriented {snapshot : Snapshot} (seen : Bearing snapshot.turtle.pose.angle)
    (names : List String) (e : Engine) (oriented : e.Oriented) :
    (tellEach tell snapshot e names).2.Oriented := by
  induction names generalizing e with
  | nil => exact oriented
  | cons name rest ih =>
    have first := tellOne_oriented told seen name oriented
    simp only [tellEach]
    split
    · rename_i responded
      rwa [responded] at first
    · rename_i responded
      rw [responded] at first
      exact ih _ first

end Notifications

/-- Whoever is told, and whatever comes of it, the turtle heads in range. The induction is on the
depth of nested notifications. -/
private theorem notifyWithin_oriented (depth : Nat) (e : Engine) (oriented : e.Oriented) :
    (notifyWithin depth e).2.Oriented := by
  induction depth generalizing e with
  | zero => exact oriented
  | succ depth ih =>
    have seen : Bearing e.snapshot.turtle.pose.angle := oriented.heading
    exact tellEach_oriented ih seen e.observers.subscribed e oriented

private theorem notify_oriented (oriented : e.Oriented) : e.notify.2.Oriented :=
  notifyWithin_oriented _ e oriented

/-! ## Runs -/

/-- An engine whose turtle heads in range, and a run whose steps have finite values. -/
private def OnBearing (_ : List Command) (left : Option Run) (e : Engine) : Prop :=
  e.Oriented ∧ ∀ run, left = some run → ∀ c ∈ run.rest, c.FiniteValues

/-- A run that is over has no steps left. -/
private theorem Oriented.ended (oriented : e.Oriented) (done : List Command) :
    OnBearing done none e := by
  refine ⟨oriented, ?_⟩
  intro run left
  cases left

private theorem onBearing_resumable : Resumable OnBearing := by
  intro done e run sleeps delay onBearing
  obtain ⟨oriented, finite⟩ := onBearing
  rw [resume_eq]
  cases verdict : e.verdict run with
  | ends status hit =>
    obtain ⟨ended, -⟩ := finish_idle e status run.index hit sleeps delay
    have recorded : (e.record status run.index hit).idle.Oriented := oriented.of_same rfl rfl
    simp only [carryOut, ended, finish_engine]
    exact (notify_oriented recorded).ended _
  | breaks error =>
    have broken : e.idle.Oriented := oriented.of_same rfl rfl
    exact broken.ended _
  | commits c effect rest =>
    obtain ⟨front, -, -, found, -⟩ := verdict_commits verdict
    have steps := finite run rfl
    rw [front] at steps
    have here : { e with currentStep := run.index }.Oriented := oriented.of_same rfl rfl
    have told : (e.stepped run.index effect).notify.2.Oriented :=
      notify_oriented (commit_oriented here (steps c (by simp)) found)
    simp only [carryOut]
    cases notified : (e.stepped run.index effect).notify with
    | mk answer after =>
      rw [notified] at told
      cases answer with
      | error error =>
        have broken : after.idle.Oriented := told.of_same rfl rfl
        exact broken.ended _
      | ok _ =>
        refine ⟨told, ?_⟩
        rintro _ ⟨⟩ other member
        exact steps other (by simp [member])

private theorem resumeTimes_onBearing {run : Run} (count : Nat)
    (onBearing : OnBearing [] (some run) e) :
    OnBearing ([] ++ e.committedIn count run) (Session.runOf (e.resumeTimes count run).1)
      (e.resumeTimes count run).2 :=
  resumeTimes_keeps onBearing_resumable count onBearing

private theorem startTimes_onBearing {commands steps : List Command} (obstacles : List Obstacle)
    (count : Nat) (oriented : e.Oriented) (finite : ∀ c ∈ commands, c.FiniteValues)
    (accepted : e.accept commands = .ok steps) :
    OnBearing ((e.begin steps).committedIn (count + 1) ⟨steps, 0, obstacles⟩)
      (Session.runOf (e.startTimes count commands obstacles).1)
      (e.startTimes count commands obstacles).2 := by
  have begun : OnBearing [] (some ⟨steps, 0, obstacles⟩) (e.begin steps) := by
    refine ⟨oriented.of_same rfl rfl, ?_⟩
    rintro _ ⟨⟩
    exact accept_finite finite accepted
  exact startTimes_keeps onBearing_resumable obstacles count accepted
    (onBearing_resumable [] _ _ 0 none begun)

end Engine

/-! ## Sessions -/

namespace Session

variable {s : Session}

/-- The turtle heads in range, and the suspended run has steps with finite values. -/
private def Steered (s : Session) : Prop := Engine.OnBearing [] s.run s.engine

private theorem started_steered {result : Stretch × Engine} (steered : s.Steered)
    {done : List Command} (begun : Engine.OnBearing done (runOf result.1) result.2) :
    (s.started result).2.Steered := by
  unfold started
  split
  · exact begun
  · rename_i run left
    refine ⟨begun.1, ?_⟩
    rw [← left]
    exact steered.2

private theorem perform_steered {operation : Operation} (finite : operation.FiniteValues)
    (steered : s.Steered) : (s.perform operation).2.Steered := by
  obtain ⟨oriented, steps⟩ := steered
  cases operation with
  | start commands obstacles =>
    cases accepted : s.engine.accept commands with
    | error error =>
      simp only [perform, Engine.startTimes_refused obstacles 0 accepted, started_refused]
      exact ⟨oriented, steps⟩
    | ok _ =>
      exact started_steered ⟨oriented, steps⟩
        (Engine.startTimes_onBearing obstacles 0 oriented finite accepted)
  | execute commands obstacles =>
    cases accepted : s.engine.accept commands with
    | error error =>
      simp only [perform, Engine.execute_refused obstacles accepted, started_refused]
      exact ⟨oriented, steps⟩
    | ok _ =>
      simp only [perform, Engine.execute_accepted obstacles accepted]
      exact started_steered ⟨oriented, steps⟩
        (Engine.startTimes_onBearing obstacles _ oriented finite accepted)
  | resume count =>
    cases left : s.run with
    | none =>
      simp only [perform, left]
      exact ⟨oriented, steps⟩
    | some run =>
      rw [left] at steps
      simp only [perform, left, drove]
      exact Engine.resumeTimes_onBearing count ⟨oriented, steps⟩
  | finish =>
    cases left : s.run with
    | none =>
      simp only [perform, left]
      exact ⟨oriented, steps⟩
    | some run =>
      rw [left] at steps
      simp only [perform, left, drove]
      exact Engine.resumeTimes_onBearing _ ⟨oriented, steps⟩
  | cancel =>
    cases left : s.run with
    | none =>
      simp only [perform, left]
      exact ⟨oriented, steps⟩
    | some run =>
      obtain ⟨ended, -⟩ := Engine.cancel_idle s.engine 0 none
      simp only [perform, left, drove]
      unfold Steered
      rw [ended, Engine.cancel_engine]
      have recorded : (s.engine.record .stopped s.engine.currentStep none).idle.Oriented :=
        oriented.of_same rfl rfl
      exact (Engine.notify_oriented recorded).ended []
  | stop => exact ⟨oriented.of_same rfl rfl, steps⟩
  | reset start =>
    have reset : (s.engine.reset start).2.Oriented := by
      refine Engine.resetWith_oriented (fun _ => Engine.notify_oriented) start ?_ oriented
      rintro pose rfl
      exact finite
    simp only [perform, told]
    split <;> (rename_i done; rw [done] at reset; exact ⟨reset, steps⟩)
  | apply command =>
    simp only [perform]
    split
    · exact ⟨oriented, steps⟩
    · rename_i applied
      obtain ⟨effect, found, -, rfl⟩ := Engine.apply_eq_ok applied
      exact ⟨Engine.commit_oriented oriented finite found, steps⟩
  | setColor color => exact ⟨oriented.of_same rfl rfl, steps⟩
  | setPenSize size => exact ⟨oriented.of_same rfl rfl, steps⟩
  | setSpeed speed =>
    simp only [perform, Engine.setSpeed]
    cases clampSpeed speed with
    | error fault => exact ⟨oriented, steps⟩
    | ok whole => exact ⟨oriented.of_same rfl rfl, steps⟩
  | subscribe name reactions => exact ⟨oriented.subscribe name finite, steps⟩
  | unsubscribe ticket => exact ⟨oriented.unsubscribe ticket, steps⟩

private theorem performAll_steered {operations : List Operation}
    (finite : ∀ operation ∈ operations, operation.FiniteValues) (steered : s.Steered) :
    (s.performAll operations).Steered := by
  induction operations generalizing s with
  | nil => exact steered
  | cons operation rest ih =>
    exact ih (fun other member => finite other (by simp [member]))
      (perform_steered (finite operation (by simp)) steered)

end Session

/-- A new engine heads where its start says, and to the right by default. -/
private theorem create_oriented {setup : Setup} {engine : Engine}
    (created : Engine.create setup = .ok engine)
    (start : ∀ pose, setup.start = some pose → Bearing pose.angle) : engine.Oriented := by
  have nobody := Engine.create_nobody created
  refine ⟨?_, ?_, ?_⟩
  · unfold Engine.create at created
    split at created
    · cases created
    · split at created
      · cases created
      · split at created
        · cases created
        · rename_i pose found
          cases created
          change Bearing pose.angle
          cases given : setup.start with
          | some own =>
            rw [given] at found
            cases found
            exact start _ given
          | none =>
            rw [given] at found
            rw [Engine.centerOf_angle found]
            decide +kernel
  · intro name snapshot shown
    simp [nobody, Observers.nobody] at shown
  · intro entry member
    simp [nobody, Observers.nobody] at member

/-- The heading stays in range. Whatever is done with an engine whose start is in range, in whatever
order, with finite values: commands are applied, runs are started, carried on step by step, stopped
and cancelled, the engine is reset, and observers do the same in between. Then the turtle heads from
0 to below 360 degrees, and so did every turtle that an observer was shown on the way. -/
theorem heading_stays_in_range (setup : Setup) (engine : Engine)
    (created : Engine.create setup = .ok engine)
    (start : ∀ pose, setup.start = some pose → 0.0 ≤ pose.angle ∧ pose.angle < 360.0)
    (operations : List Operation) (finite : ∀ operation ∈ operations, operation.FiniteValues) :
    let later := ((Session.ofEngine engine).performAll operations).engine
    (0.0 ≤ later.turtle.pose.angle ∧ later.turtle.pose.angle < 360.0) ∧
      ∀ name snapshot, .shown name snapshot ∈ later.observers.events →
        0.0 ≤ snapshot.turtle.pose.angle ∧ snapshot.turtle.pose.angle < 360.0 := by
  have steered : (Session.ofEngine engine).Steered := (create_oriented created start).ended []
  have oriented := (Session.performAll_steered finite steered).1
  exact ⟨oriented.heading, oriented.shown⟩

/-- An observer that turns far around when it is shown the first step, and starts over just below a
full turn when it is shown the second one. -/
private def tumbler : Operation :=
  .subscribe "tumbler"
    [⟨0, .apply ⟨.right, some (.real 1.0e308), [], 0, 0⟩⟩,
      ⟨1, .reset (some ⟨400.0, 300.0, -1.0e-300⟩)⟩]

/-- Small turns to and fro. -/
private def wavering : Command :=
  ⟨.repetition, some (.whole 2),
    [⟨.left, some (.real 0.25), [], 1, 11⟩, ⟨.right, some (.whole 720), [], 1, 21⟩], 1, 1⟩

/-- From just below a full turn, among far turns and with a start that rounds to a full turn, the
heading is in range at the end. -/
theorem heading_stays_in_range_of_tumbler :
    let operations : List Operation :=
      [tumbler, .start [wavering] [], .resume 1, .apply ⟨.left, some (.real 0.5), [], 0, 0⟩, .cancel]
    Engine.create { start := some ⟨400.0, 300.0, 359.75⟩ } =
        .ok (Engine.placed ⟨400.0, 300.0, 359.75⟩) ∧
      ((0.0 : Float) ≤ 359.75 ∧ (359.75 : Float) < 360.0) ∧
      (∀ operation ∈ operations, operation.FiniteValues) ∧
      let angle := ((Session.ofEngine (Engine.placed ⟨400.0, 300.0, 359.75⟩)).performAll
        operations).engine.turtle.pose.angle
      0.0 ≤ angle ∧ angle < 360.0 := by
  intro operations
  have created := Engine.create_placed ⟨400.0, 300.0, 359.75⟩
  have start : (0.0 : Float) ≤ 359.75 ∧ (359.75 : Float) < 360.0 := by decide +kernel
  have leaf : ∀ (kind : Kind) (value : Number) (line column : Int), value.IsFinite →
      Command.FiniteValues ⟨kind, some value, [], line, column⟩ := by
    intro kind value line column finite
    refine .node ?_ nofun
    rintro _ ⟨⟩
    exact finite
  have tree : wavering.FiniteValues := by
    refine .node ?_ ?_
    · rintro _ ⟨⟩
      trivial
    · intro b member
      rcases List.mem_pair.mp member with rfl | rfl
      · exact leaf _ _ _ _ (by decide +kernel)
      · exact leaf _ _ _ _ trivial
  have finite : ∀ operation ∈ operations, operation.FiniteValues := by
    intro operation member
    simp only [operations, List.mem_cons, List.not_mem_nil, or_false] at member
    rcases member with rfl | rfl | rfl | rfl | rfl
    · intro reaction known
      rcases List.mem_pair.mp known with rfl | rfl
      · exact leaf _ _ _ _ (by decide +kernel)
      · change (-1.0e-300 : Float).isFinite = true
        decide +kernel
    · intro c known
      rw [List.mem_singleton.mp known]
      exact tree
    · trivial
    · exact leaf _ _ _ _ (by decide +kernel)
    · trivial
  have kept := heading_stays_in_range _ _ created (by
    rintro _ ⟨⟩
    exact start) operations finite
  exact ⟨created, start, finite, kept.1⟩

end TurtleScript
