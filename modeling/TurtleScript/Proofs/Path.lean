import Mathlib.Data.List.Chain
import TurtleScript.Proofs.Changes

/-!
The drawing is a path. The turtle and the drawing are changed at different places, by commands and
by resets, inside runs and outside them; what keeps them together is that the last movement ends
where the turtle is. Entries are never taken out of a log, so what a run has drawn can still be
found after whatever came later.
-/
namespace TurtleScript

/-! ## Logs -/

namespace Drawings

/-- Every entry of every log is still in its place. -/
def Extends (d later : Drawings) : Prop :=
  ∀ (number place : Nat) (entry : Instruction),
    (d.log number)[place]? = some entry → (later.log number)[place]? = some entry

variable {d middle later : Drawings}

theorem Extends.refl (d : Drawings) : d.Extends d := fun _ _ _ found => found

theorem Extends.trans (first : d.Extends middle) (second : middle.Extends later) :
    d.Extends later :=
  fun number place entry found => second number place entry (first number place entry found)

theorem append_extends (d : Drawings) (i : Instruction) : d.Extends (d.append i) := by
  intro number place entry found
  by_cases current : number = d.closed.size
  · have before : d.current[place]? = some entry := by
      simpa [log, current, currentLog] using found
    have inside : place < d.current.size := (Array.getElem?_eq_some_iff.mp before).1
    have after : (d.append i).log number = d.current.push i := by
      simp [log, current, append, currentLog]
    rw [after, Array.getElem?_push, if_neg (by omega)]
    exact before
  · simpa [log, current, append, currentLog] using found

/-- A log that was closed is still the log of its number. -/
theorem renew_extends (d : Drawings) : d.Extends d.renew := by
  intro number place entry found
  by_cases current : number = d.closed.size
  · simpa [log, current, renew, currentLog] using found
  · by_cases before : number < d.closed.size
    · have later : number ≠ d.closed.size + 1 := by omega
      simpa [log, current, renew, currentLog, later, before, Array.getElem?_push] using found
    · have none : d.closed.size ≤ number := by omega
      simp [log, current, currentLog, none] at found

end Drawings

/-! ## Paths -/

namespace Engine

/-- The drawing is a connected path on the canvas, which ends where the turtle is. -/
structure OnPath (e : Engine) : Prop where
  connected : e.drawing.IsChain fun a b => a.finish = b.start
  ends : ∀ last ∈ e.drawing.getLast?, last.finish = e.turtle.pose.point
  inside : ∀ entry ∈ e.drawing, e.within entry.finish = true

/-- Every movement but the first starts on the canvas, because the one before it ends there. -/
theorem OnPath.starts {e : Engine} (path : e.OnPath) :
    ∀ entry ∈ e.drawing.tail, e.within entry.start = true := by
  have connected := path.connected
  have inside := path.inside
  generalize e.drawing = entries at connected inside
  induction entries with
  | nil => exact nofun
  | cons first others ih =>
    intro entry member
    cases others with
    | nil => cases member
    | cons second rest =>
      obtain ⟨joined, later⟩ := List.isChain_cons_cons.mp connected
      rcases List.mem_cons.mp member with rfl | further
      · rw [← joined]
        exact inside first (by simp)
      · exact ih later (fun entry member => inside entry (by simp [member])) entry further

theorem create_onPath {setup : Setup} {e : Engine} (created : create setup = .ok e) :
    e.OnPath := by
  unfold create at created
  repeat' split at created
  all_goals cases created
  exact ⟨.nil, nofun, nofun⟩

/-- The second engine comes from the first one by drawing on: no canvas changes, no entry is lost,
and a path stays one. -/
structure Draws (a b : Engine) : Prop where
  width : b.width = a.width
  height : b.height = a.height
  logs : a.drawings.Extends b.drawings
  path : a.OnPath → b.OnPath

namespace Draws

variable {a b c : Engine}

theorem refl (e : Engine) : Draws e e := ⟨rfl, rfl, .refl _, id⟩

theorem trans (first : Draws a b) (second : Draws b c) : Draws a c :=
  ⟨second.width.trans first.width, second.height.trans first.height,
    first.logs.trans second.logs, fun path => second.path (first.path path)⟩

/-- What leaves the canvas, the drawing and the place of the turtle alone draws nothing. -/
theorem of_frame (width : b.width = a.width) (height : b.height = a.height)
    (drawings : b.drawings = a.drawings) (place : b.turtle.pose.point = a.turtle.pose.point) :
    Draws a b := by
  refine ⟨width, height, drawings ▸ .refl _, ?_⟩
  intro path
  have drawing : b.drawing = a.drawing := by simp [Engine.drawing, drawings]
  have within : ∀ p, b.within p = a.within p := by simp [Engine.within, width, height]
  refine ⟨drawing ▸ path.connected, ?_, ?_⟩
  · rw [drawing, place]
    exact path.ends
  · simp only [drawing, within]
    exact path.inside

/-- A new drawing is a path, wherever the turtle is. -/
theorem of_renewed (width : b.width = a.width) (height : b.height = a.height)
    (renewed : b.drawings = a.drawings.renew) : Draws a b := by
  have nothing : b.drawing = [] := by simp [Engine.drawing, renewed, Drawings.renew]
  refine ⟨width, height, renewed ▸ a.drawings.renew_extends, fun _ => ⟨?_, ?_, ?_⟩⟩
  · rw [nothing]
    exact .nil
  · rw [nothing]
    exact nofun
  · rw [nothing]
    exact nofun

end Draws

variable {e : Engine}

theorem moveTo_drawing (e : Engine) (p : Point) : ∃ entry : Instruction,
    (e.moveTo p).drawing = e.drawing ++ [entry] ∧ entry.start = e.turtle.pose.point ∧
      entry.finish = p := by
  refine ⟨⟨if e.turtle.penDown then .line else .move, e.turtle.pose.point, p, e.turtle.color,
    e.turtle.penSize⟩, ?_, rfl, rfl⟩
  simp [moveTo, drawing, Drawings.append]

/-- A movement to a point of the canvas carries a path on from where the turtle is. -/
theorem moveTo_draws {p : Point} (onCanvas : e.within p = true) : Draws e (e.moveTo p) := by
  refine ⟨rfl, rfl, e.drawings.append_extends _, ?_⟩
  intro path
  obtain ⟨entry, drawing, starts, ends⟩ := e.moveTo_drawing p
  have within : ∀ q, (e.moveTo p).within q = e.within q := fun _ => rfl
  refine ⟨?_, ?_, ?_⟩
  · rw [drawing]
    refine path.connected.append (.singleton entry) ?_
    intro last isLast next isNext
    cases isNext
    rw [path.ends last isLast, starts]
  · rw [drawing, List.getLast?_concat]
    rintro last ⟨⟩
    exact ends
  · intro other member
    rw [drawing] at member
    rw [within]
    rcases List.mem_append.mp member with old | new
    · exact path.inside other old
    · rw [List.mem_singleton.mp new, ends]
      exact onCanvas

/-- Only a movement to a point of the canvas has the effect to move. -/
theorem effect_move {c : Command} {p : Point} (found : e.effect c = .ok (.move p)) :
    c.kind.moves = true ∧ e.destination c = .ok p ∧ e.within p = true := by
  unfold effect turnEffect at found
  split at found
  case h_1 kind | h_2 kind =>
    cases leads : e.destination c with
    | error error => simp [leads] at found
    | ok q =>
      simp only [leads, Except.ok.injEq] at found
      split at found
      · rename_i onCanvas
        cases found
        exact ⟨by simp [kind, Kind.moves], rfl, onCanvas⟩
      · cases found
  all_goals
    repeat' split at found
    all_goals cases found

/-- Every command that can be done carries a path on. -/
theorem commit_draws {c : Command} {effect : Effect} (found : e.effect c = .ok effect) :
    Draws e (e.commit effect) := by
  cases effect with
  | move p => exact moveTo_draws (effect_move found).2.2
  | blocked => exact .refl e
  | turn | pen | color => exact .of_frame rfl rfl rfl rfl
  | clear => exact .of_renewed rfl rfl rfl

theorem restart_draws (e : Engine) (pose : Pose) : Draws e (e.restart pose) :=
  .of_renewed rfl rfl rfl

theorem Change.draws {a b : Engine} (change : a.Change b) : Draws a b := by
  cases change with
  | effect found => exact commit_draws found
  | restart pose => exact restart_draws a pose
  | setColor | setPenSize => exact .of_frame rfl rfl rfl rfl
  | aside same => exact .of_frame same.width same.height same.drawings (by rw [same.turtle])

/-- Whatever becomes of an engine carries its path on. -/
theorem Becomes.draws {a b : Engine} (becomes : a.Becomes b) : Draws a b :=
  becomes.lift Draws .refl Draws.trans Change.draws

/-! ## Runs -/

/-- After a step is made, whatever its observers do carries its path on. -/
theorem committed_draws {run : Run} {c : Command} {effect : Effect} {rest : List Command}
    (verdict : e.verdict run = .commits c effect rest) :
    Draws (e.stepped run.index effect) (e.resume run).2 :=
  (committed_evolves verdict).becomes.draws

theorem resume_draws (e : Engine) (run : Run) : Draws e (e.resume run).2 :=
  (resume_evolves e run).becomes.draws

/-- A run that is pursued carries a path on, and does so from each of its resumptions on. -/
theorem pursue_draws (more : Nat) (e : Engine) (run : Run) :
    Draws e (e.pursue more run).2 ∧
      ∀ x ∈ e.resumptions more run, Draws x.after (e.pursue more run).2 := by
  induction more generalizing e run with
  | zero =>
    refine ⟨resume_draws e run, ?_⟩
    intro x member
    rw [List.mem_singleton.mp member]
    exact .refl _
  | succ more ih =>
    have first := resume_draws e run
    have own : (⟨e, run⟩ : Resumption).after = (e.resume run).2 := rfl
    simp only [pursue, resumptions]
    cases resumed : e.resume run with
    | mk progress after =>
      rw [resumed] at first own
      cases progress with
      | suspended next delay =>
        obtain ⟨later, each⟩ := ih after next
        refine ⟨first.trans later, ?_⟩
        intro x member
        rcases List.mem_cons.mp member with rfl | further
        · rw [own]
          exact later
        · exact each x further
      | returned | raised =>
        refine ⟨first, ?_⟩
        intro x member
        rw [List.mem_singleton.mp member, own]
        exact .refl _

end Engine

/-! ## Sessions -/

namespace Session

/-- Every operation carries a path on, and does so from each resumption that it makes. -/
theorem perform_draws (s : Session) (operation : Operation) :
    s.engine.Draws (s.perform operation).2.engine ∧
      ∀ x ∈ s.resumptions operation, x.after.Draws (s.perform operation).2.engine := by
  cases s.perform_does operation with
  | @pursues first more pursued left =>
    obtain ⟨whole, each⟩ := Engine.pursue_draws more first.engine first.run
    have begun : s.engine.Draws first.engine := by
      obtain ⟨_, steps, _, -, rfl⟩ | ⟨_, -, rfl⟩ := pursuit_cases pursued
      · exact .of_frame rfl rfl rfl rfl
      · exact .refl _
    rw [left]
    refine ⟨begun.trans whole, ?_⟩
    simpa only [resumptions, pursued] using each
  | cancels _ cancel left =>
    subst cancel
    rw [left]
    exact ⟨s.engine.cancel_evolves.becomes.draws, by simp [resumptions, pursuit?]⟩
  | touches unpursued _ touched _ =>
    refine ⟨touched.evolves.becomes.draws, ?_⟩
    simp [resumptions, unpursued]

/-- Operations in any order carry a path on, and do so from each resumption on. -/
theorem performAll_draws (s : Session) (operations : List Operation) :
    s.engine.Draws (s.performAll operations).engine ∧
      ∀ x ∈ s.history operations, x.after.Draws (s.performAll operations).engine := by
  induction operations generalizing s with
  | nil => exact ⟨.refl _, by simp [history]⟩
  | cons operation rest ih =>
    obtain ⟨first, each⟩ := s.perform_draws operation
    obtain ⟨later, eachLater⟩ := ih (s.perform operation).2
    refine ⟨first.trans later, ?_⟩
    intro x member
    rcases List.mem_append.mp member with now | further
    · exact (each x now).trans later
    · exact eachLater x further

end Session

/-! ## What a run draws -/

/-- A movement that a run makes is drawn at the end of the log, and ends in no obstacle of the
run. -/
theorem Resumption.draws_clear {x : Resumption} {c : Command} {p : Point} {rest : List Command}
    (verdict : x.verdict = .commits c (.move p) rest) :
    (∃ entry : Instruction, entry.finish = p ∧
      (x.after.drawings.log x.engine.drawings.currentLog)[x.engine.drawings.current.size]? =
        some entry) ∧
    ∀ o ∈ x.run.obstacles, o.contains p = false := by
  obtain ⟨-, -, ahead, found, -⟩ := Engine.verdict_commits verdict
  obtain ⟨moves, leads, -⟩ := Engine.effect_move found
  refine ⟨?_, ?_⟩
  · let stepped := x.engine.stepped x.run.index (.move p)
    obtain ⟨entry, drawn, ends⟩ : ∃ entry : Instruction,
        stepped.drawings = x.engine.drawings.append entry ∧ entry.finish = p := ⟨_, rfl, rfl⟩
    refine ⟨entry, ends, (Engine.committed_draws verdict).logs _ _ _ ?_⟩
    rw [drawn]
    simp [Drawings.log, Drawings.append, Drawings.currentLog]
  · have clear : findObstacle p x.run.obstacles = none := by
      simpa [Engine.obstacleAhead, moves, leads, Except.map] using ahead
    simpa [findObstacle] using clear

/-! ## The drawing is a path -/

/-- A new engine under operations in any order, with observers that act and fail as they like. Its
drawing is connected, ends where the turtle is, and stays on the canvas, where only the first
movement may have started elsewhere. Every movement that was a step of a run is still found at the
place of the log where it was drawn, and ends in no obstacle that the run was started with. -/
theorem drawing_is_path (setup : Setup) (engine : Engine)
    (created : Engine.create setup = .ok engine) (operations : List Operation) :
    let e := ((Session.ofEngine engine).performAll operations).engine
    (e.drawing.IsChain fun a b => a.finish = b.start) ∧
    (∀ last ∈ e.drawing.getLast?, last.finish = e.turtle.pose.point) ∧
    (∀ entry ∈ e.drawing, e.within entry.finish = true) ∧
    (∀ entry ∈ e.drawing.tail, e.within entry.start = true) ∧
    ∀ x ∈ (Session.ofEngine engine).history operations, ∀ c p rest,
      x.verdict = .commits c (.move p) rest →
      ∃ entry : Instruction, entry.finish = p ∧
        (e.drawings.log x.engine.drawings.currentLog)[x.engine.drawings.current.size]? =
          some entry ∧
        ∀ o ∈ x.run.obstacles, o.contains entry.finish = false := by
  intro e
  obtain ⟨draws, each⟩ := (Session.ofEngine engine).performAll_draws operations
  have path : e.OnPath := draws.path (Engine.create_onPath created)
  refine ⟨path.connected, path.ends, path.inside, path.starts, ?_⟩
  intro x member c p rest verdict
  obtain ⟨⟨entry, ends, drawn⟩, clear⟩ := Resumption.draws_clear verdict
  refine ⟨entry, ends, (each x member).logs _ _ _ drawn, ?_⟩
  rw [ends]
  exact clear

private def forwardTen : Command := ⟨.forward, some (.real 10.0), [], 1, 1⟩

/-- A run moves once and is then joined by a movement beside it; it moves again, is cancelled, and
the engine is reset and moves once more. -/
private def wanderings : List Operation :=
  [.start [forwardTen, forwardTen, forwardTen] [⟨0.0, 0.0, 10.0, 10.0, .wall⟩],
    .apply forwardTen, .resume 1, .cancel, .reset none, .apply forwardTen]

/-- The drawing of a turtle that wanders from the middle of the canvas, in runs and outside them. -/
theorem drawing_is_path_of_wanderer :
    let engine := Engine.placed ⟨400.0, 300.0, 0.0⟩
    let e := ((Session.ofEngine engine).performAll wanderings).engine
    Engine.create { start := some ⟨400.0, 300.0, 0.0⟩ } = .ok engine ∧
    (e.drawing.IsChain fun a b => a.finish = b.start) ∧
    (∀ last ∈ e.drawing.getLast?, last.finish = e.turtle.pose.point) ∧
    (∀ entry ∈ e.drawing, e.within entry.finish = true) ∧
    ∀ entry ∈ e.drawing.tail, e.within entry.start = true := by
  have created := Engine.create_placed ⟨400.0, 300.0, 0.0⟩
  obtain ⟨connected, ends, inside, starts, -⟩ := drawing_is_path _ _ created wanderings
  exact ⟨created, connected, ends, inside, starts⟩

end TurtleScript
