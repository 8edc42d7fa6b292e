import TurtleScript.Proofs.Lifecycle

/-!
One command, applied by itself. It is done as a whole, it is turned down because it would leave the
canvas, or it is refused with an error; and it is known of every command and every engine which of
the three happens and why. A command that is done changes what its kind is for and nothing else. One
that is not done changes nothing at all, since nothing is written before everything that could fail
has been found out.
-/
namespace TurtleScript

/-! ## Refusals -/

/-- The number that a command asks for, with the sign that its direction gives it. -/
def Command.amount? (c : Command) : Option Number :=
  if c.kind = .back then c.value.map Number.neg else c.value

private theorem amount?_of_value {c : Command} {value : Number} (given : c.value = some value) :
    c.amount? = some (if c.kind = .back then value.neg else value) := by
  rw [Command.amount?, given]
  split <;> rfl

private theorem toFloat_error {value : Number} {fault : NumberFault}
    (refused : value.toFloat = .error fault) :
    fault = .tooLarge ∧ ∃ n, value = .whole n ∧ (Binary64.ofInt n).isFinite = false := by
  cases value with
  | real x => cases refused
  | whole n =>
    simp only [Number.toFloat] at refused
    split at refused
    · cases refused
    · rename_i infinite
      cases refused
      exact ⟨rfl, n, rfl, Bool.eq_false_iff.mpr infinite⟩

private theorem toFloat_tooLarge {n : Int} (infinite : (Binary64.ofInt n).isFinite = false) :
    (Number.whole n).toFloat = .error .tooLarge := by
  simp [Number.toFloat, infinite]

namespace Engine

/-- Why an engine refuses a command, error by error. -/
def Rejects (e : Engine) (c : Command) : EngineError → Prop
  | .notAStep offender => offender = c ∧ (c.kind = .repetition ∨ ∃ name, c.kind = .other name)
  | .missingValue offender => offender = c ∧ c.kind.takesNumber = true ∧ c.value = none
  | .number .nanToWhole =>
    c.kind = .color ∧ ∃ x, c.value = some (.real x) ∧ Binary64.parts x = .nan
  | .number .infinityToWhole =>
    c.kind = .color ∧ ∃ x negative, c.value = some (.real x) ∧ Binary64.parts x = .infinite negative
  | .number .domain =>
    c.kind.moves = true ∧ c.value ≠ none ∧ (radians e.turtle.pose.angle).isInf = true
  | .number .tooLarge =>
    (c.kind.moves = true ∧ (radians e.turtle.pose.angle).isInf = false ∨
      c.kind = .left ∨ c.kind = .right) ∧
    ∃ n, c.amount? = some (.whole n) ∧ (Binary64.ofInt n).isFinite = false
  | _ => False

variable {e : Engine} {c : Command} {error : EngineError}

private theorem destination_rejects (moves : c.kind.moves = true)
    (refused : e.destination c = .error error) : e.Rejects c error := by
  unfold destination at refused
  cases given : c.value with
  | none =>
    rw [given] at refused
    cases refused
    refine ⟨rfl, ?_, given⟩
    revert moves
    cases c.kind <;> simp [Kind.moves, Kind.takesNumber]
  | some value =>
    simp only [given] at refused
    cases infinite : (radians e.turtle.pose.angle).isInf with
    | true =>
      simp only [infinite, if_true] at refused
      cases refused
      exact ⟨moves, by simp [given], infinite⟩
    | false =>
      simp only [infinite] at refused
      split at refused
      · contradiction
      · split at refused
        · rename_i fault refusal
          cases refused
          obtain ⟨rfl, n, whole, large⟩ := toFloat_error refusal
          exact ⟨.inl ⟨moves, infinite⟩, n, by rw [amount?_of_value given, whole], large⟩
        · cases refused

private theorem turnEffect_rejects {turned : Float → Float} (turns : c.kind = .left ∨ c.kind = .right)
    (refused : turnEffect c turned = .error error) : e.Rejects c error := by
  have forward : c.kind ≠ .back := by rcases turns with kind | kind <;> simp [kind]
  unfold turnEffect at refused
  cases given : c.value with
  | none =>
    rw [given] at refused
    cases refused
    exact ⟨rfl, by rcases turns with kind | kind <;> simp [kind, Kind.takesNumber], given⟩
  | some value =>
    simp only [given] at refused
    split at refused
    · rename_i fault refusal
      cases refused
      obtain ⟨rfl, n, rfl, large⟩ := toFloat_error refusal
      exact ⟨.inr turns, n, by rw [amount?_of_value given, if_neg forward], large⟩
    · cases refused

private theorem color_rejects {value : Number} {fault : NumberFault} (color : c.kind = .color)
    (given : c.value = some value) (refused : e.palette.color value = .error fault) :
    e.Rejects c (.number fault) := by
  unfold Palette.color at refused
  cases value with
  | whole n => cases refused
  | real x =>
    simp only [Number.floor, Number.wholeBy] at refused
    cases parts : Binary64.parts x with
    | nan =>
      rw [parts] at refused
      cases refused
      exact ⟨color, x, given, parts⟩
    | infinite negative =>
      rw [parts] at refused
      cases refused
      exact ⟨color, x, negative, given, parts⟩
    | finite negative mantissa exponent =>
      rw [parts] at refused
      cases refused

theorem effect_rejects (refused : e.effect c = .error error) : e.Rejects c error := by
  unfold effect at refused
  split at refused
  case h_1 kind | h_2 kind =>
    cases leads : e.destination c with
    | error found =>
      simp only [leads, Except.error.injEq] at refused
      exact refused ▸ destination_rejects (by simp [kind, Kind.moves]) leads
    | ok p => simp [leads] at refused
  case h_3 kind => exact turnEffect_rejects (.inl kind) refused
  case h_4 kind => exact turnEffect_rejects (.inr kind) refused
  case h_5 | h_6 | h_7 => cases refused
  case h_8 kind =>
    split at refused
    · rename_i absent
      cases refused
      exact ⟨rfl, by simp [kind, Kind.takesNumber], absent⟩
    · rename_i value given
      split at refused
      · rename_i fault refusal
        cases refused
        exact color_rejects kind given refusal
      · cases refused
  case h_9 kind =>
    cases refused
    exact ⟨rfl, .inl kind⟩
  case h_10 name kind =>
    cases refused
    exact ⟨rfl, .inr ⟨name, kind⟩⟩

private theorem destination_error_of_amount {n : Int}
    (heading : (radians e.turtle.pose.angle).isInf = false)
    (asked : c.amount? = some (.whole n)) (large : (Binary64.ofInt n).isFinite = false) :
    e.destination c = .error (.number .tooLarge) := by
  cases given : c.value with
  | none => simp [Command.amount?, given] at asked
  | some value =>
    have whole := (amount?_of_value given).symm.trans asked
    simp [destination, given, heading, Option.some.inj whole, toFloat_tooLarge large]

theorem effect_of_rejects (rejects : e.Rejects c error) : e.effect c = .error error := by
  cases error with
  | notAStep offender => obtain ⟨rfl, kind | ⟨name, kind⟩⟩ := rejects <;> simp [effect, kind]
  | missingValue offender =>
    obtain ⟨rfl, valued, absent⟩ := rejects
    cases kind : offender.kind with
    | forward | back => simp [effect, kind, destination, absent]
    | left | right => simp [effect, kind, turnEffect, absent]
    | color => simp [effect, kind, absent]
    | _ => simp [kind, Kind.takesNumber] at valued
  | number fault =>
    cases fault with
    | nanToWhole =>
      obtain ⟨kind, x, given, parts⟩ := rejects
      simp [effect, kind, given, Palette.color, Number.floor, Number.wholeBy, parts]
    | infinityToWhole =>
      obtain ⟨kind, x, negative, given, parts⟩ := rejects
      simp [effect, kind, given, Palette.color, Number.floor, Number.wholeBy, parts]
    | domain =>
      obtain ⟨moves, present, infinite⟩ := rejects
      obtain ⟨value, given⟩ := Option.ne_none_iff_exists'.mp present
      cases kind : c.kind with
      | forward | back => simp [effect, kind, destination, given, infinite]
      | _ => simp [kind, Kind.moves] at moves
    | tooLarge =>
      obtain ⟨⟨moves, heading⟩ | turns, n, asked, large⟩ := rejects
      · have refused := destination_error_of_amount heading asked large
        cases kind : c.kind with
        | forward | back => simp [effect, kind, refused]
        | _ => simp [kind, Kind.moves] at moves
      · rcases turns with kind | kind <;>
          simp_all [effect, turnEffect, Command.amount?, toFloat_tooLarge]
    | _ => exact rejects.elim
  | _ => exact rejects.elim

theorem apply_error_iff : e.apply c = .error error ↔ e.Rejects c error := by
  constructor
  · intro refused
    exact effect_rejects (apply_eq_error refused)
  · intro rejects
    simp only [apply, effect_of_rejects rejects]

/-! ## Commands that are done -/

/-- What a command that is done makes of the turtle and of the drawing, by its kind. -/
inductive Obeys (e : Engine) (c : Command) : Turtle → List Instruction → Prop
  | moved {p : Point} (moves : c.kind.moves = true) (leads : e.destination c = .ok p)
    (inside : e.within p = true) :
    Obeys e c { e.turtle with pose := ⟨p.x, p.y, e.turtle.pose.angle⟩ }
      (e.drawing ++ [⟨if e.turtle.penDown then .line else .move, e.turtle.pose.point, p,
        e.turtle.color, e.turtle.penSize⟩])
  | left {value : Number} {degrees : Float} (kind : c.kind = .left) (given : c.value = some value)
    (measured : value.toFloat = .ok degrees) :
    Obeys e c { e.turtle with pose := { e.turtle.pose with
      angle := normalizeAngle (e.turtle.pose.angle + degrees) } } e.drawing
  | right {value : Number} {degrees : Float} (kind : c.kind = .right)
    (given : c.value = some value) (measured : value.toFloat = .ok degrees) :
    Obeys e c { e.turtle with pose := { e.turtle.pose with
      angle := normalizeAngle (e.turtle.pose.angle - degrees + 360.0) } } e.drawing
  | lifted (kind : c.kind = .penUp) : Obeys e c { e.turtle with penDown := false } e.drawing
  | lowered (kind : c.kind = .penDown) : Obeys e c { e.turtle with penDown := true } e.drawing
  | colored {value : Number} {index : Int} (kind : c.kind = .color)
    (given : c.value = some value) (counted : value.floor = .ok index) :
    Obeys e c { e.turtle with color := e.palette.colorAt index } e.drawing
  | cleared (kind : c.kind = .clear) : Obeys e c e.turtle []

/-- A command would take the turtle off the canvas. -/
def TurnsDown (e : Engine) (c : Command) : Prop :=
  c.kind.moves = true ∧ ∃ p, e.destination c = .ok p ∧ e.within p = false

private theorem turnEffect_ok {turned : Float → Float} {effect : Effect}
    (found : turnEffect c turned = .ok effect) : ∃ value degrees, c.value = some value ∧
      value.toFloat = .ok degrees ∧ effect = .turn (normalizeAngle (turned degrees)) := by
  unfold turnEffect at found
  split at found
  · cases found
  · rename_i value given
    split at found
    · cases found
    · rename_i degrees measured
      cases found
      exact ⟨value, degrees, given, measured, rfl⟩

private theorem color_ok {p : Palette} {value : Number} {color : String}
    (found : p.color value = .ok color) :
    ∃ index, value.floor = .ok index ∧ color = p.colorAt index := by
  unfold Palette.color at found
  split at found
  · cases found
  · rename_i index counted
    cases found
    exact ⟨index, counted, rfl⟩

private theorem moveTo_obeys {p : Point} (moves : c.kind.moves = true)
    (leads : e.destination c = .ok p) (inside : e.within p = true) :
    e.Obeys c (e.moveTo p).turtle (e.moveTo p).drawing := by
  have drawn : (e.moveTo p).drawing = e.drawing ++
      [⟨if e.turtle.penDown then .line else .move, e.turtle.pose.point, p, e.turtle.color,
        e.turtle.penSize⟩] := by
    simp [moveTo, drawing, Drawings.append]
  rw [drawn]
  exact .moved moves leads inside

/-- What a command comes to that is not refused: it is done as its kind says, or it is a movement
off the canvas. -/
theorem effect_obeys {effect : Effect} (found : e.effect c = .ok effect) :
    effect.done = true ∧ e.Obeys c (e.commit effect).turtle (e.commit effect).drawing ∨
      effect = .blocked ∧ e.TurnsDown c := by
  unfold Engine.effect at found
  split at found
  case h_1 kind | h_2 kind =>
    have moves : c.kind.moves = true := by simp [kind, Kind.moves]
    cases leads : e.destination c with
    | error error => simp [leads] at found
    | ok p =>
      simp only [leads, Except.ok.injEq] at found
      split at found
      · rename_i inside
        subst found
        exact .inl ⟨rfl, moveTo_obeys moves leads inside⟩
      · rename_i outside
        exact .inr ⟨found.symm, moves, p, leads, Bool.eq_false_iff.mpr outside⟩
  case h_3 kind =>
    obtain ⟨value, degrees, given, measured, rfl⟩ := turnEffect_ok found
    exact .inl ⟨rfl, .left kind given measured⟩
  case h_4 kind =>
    obtain ⟨value, degrees, given, measured, rfl⟩ := turnEffect_ok found
    exact .inl ⟨rfl, .right kind given measured⟩
  case h_5 kind =>
    cases found
    exact .inl ⟨rfl, .lifted kind⟩
  case h_6 kind =>
    cases found
    exact .inl ⟨rfl, .lowered kind⟩
  case h_7 kind =>
    cases found
    exact .inl ⟨rfl, .cleared kind⟩
  case h_8 kind =>
    split at found
    · cases found
    · rename_i value given
      split at found
      · cases found
      · rename_i color chosen
        cases found
        obtain ⟨index, counted, rfl⟩ := color_ok chosen
        exact .inl ⟨rfl, .colored kind given counted⟩
  case h_9 | h_10 => cases found

/-- An effect reaches the turtle and the drawing and nothing else. -/
theorem commit_frame (e : Engine) (effect : Effect) : e.commit effect =
    { e with turtle := (e.commit effect).turtle, drawings := (e.commit effect).drawings } := by
  cases effect <;> rfl

/-- Applying a command is all or nothing. A command that is done has changed the turtle and the
drawing as its kind says: a movement has changed the place and has been drawn, with the pen as it
was, and every other command has changed the one thing that it is for. A command that is turned down
or refused has changed nothing, and it is refused for the reasons that `Rejects` lists and for no
other. Whatever happens, nothing but the turtle and the drawing is touched. -/
theorem applying_is_all_or_nothing (e : Engine) (c : Command) :
    (∀ after, e.apply c = .ok (true, after) → e.Obeys c after.turtle after.drawing) ∧
    (∀ after, e.apply c = .ok (false, after) ↔ after = e ∧ e.TurnsDown c) ∧
    (∀ error, e.apply c = .error error ↔ e.Rejects c error) ∧
    ∀ run, let after := ((Session.mk e run).perform (.apply c)).2
      after.run = run ∧
      after.engine =
        { e with turtle := after.engine.turtle, drawings := after.engine.drawings } ∧
      ((∃ error, e.apply c = .error error) → after.engine = e) := by
  refine ⟨fun after applied => ?_, fun after => ⟨fun applied => ?_, ?_⟩, fun _ => apply_error_iff,
    fun run => ?_⟩
  · obtain ⟨effect, found, done, rfl⟩ := apply_eq_ok applied
    rcases effect_obeys found with ⟨-, obeys⟩ | ⟨rfl, -⟩
    · exact obeys
    · cases done
  · obtain ⟨effect, found, undone, rfl⟩ := apply_eq_ok applied
    rcases effect_obeys found with ⟨done, -⟩ | ⟨rfl, turnsDown⟩
    · rw [done] at undone
      cases undone
    · exact ⟨rfl, turnsDown⟩
  · rintro ⟨rfl, moves, p, leads, outside⟩
    have blocked : after.effect c = .ok .blocked := by
      cases kind : c.kind with
      | forward | back => simp [effect, kind, leads, outside]
      | _ => simp [kind, Kind.moves] at moves
    simp only [apply, blocked]
    rfl
  · cases applied : e.apply c with
    | error error => simp [Session.perform, applied]
    | ok result =>
      obtain ⟨success, after⟩ := result
      obtain ⟨effect, -, -, rfl⟩ := apply_eq_ok applied
      simpa [Session.perform, applied] using e.commit_frame effect

/-- A step of a length that no double-precision number comes near. -/
def farStep : Command :=
  ⟨.forward, some (.whole (.ofNat (tenTo 400))), [], 0, 0⟩

/-- A movement is refused though its number is given and the turtle heads somewhere: the number is a
whole one that is too large. -/
theorem far_step_refused :
    let engine := Engine.placed ⟨400.0, 300.0, 0.0⟩
    engine.apply farStep = .error (.number .tooLarge) ∧
      farStep.kind = .forward ∧ farStep.value ≠ none ∧
      engine.turtle.pose.angle.isFinite = true := by
  have heading : (radians (0.0 : Float)).isInf = false := by decide +kernel
  have large : (Binary64.ofInt (.ofNat (tenTo 400))).isFinite = false := by decide +kernel
  refine ⟨?_, rfl, nofun, by decide +kernel⟩
  exact apply_error_iff.mpr ⟨.inl ⟨rfl, heading⟩, .ofNat (tenTo 400), rfl, large⟩

end Engine

end TurtleScript
