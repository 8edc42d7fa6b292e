import TurtleScript.Objective
import TurtleScript.Proofs.Applying
import TurtleScript.Proofs.Attendance

/-!
The drawing as a function of what was done. An instruction looks as the pen did when its movement
was made, and the pen was as the last command for it had left it, which may have been given long
before; a new drawing forgets the instructions but not the pen. So the commands that a run has
committed decide what it has drawn, instruction by instruction, whatever ended the run and whenever.
-/
namespace TurtleScript

/-! ## What was done last -/

/-- The last of some commands that is of a certain sort. -/
def lastOf (sort : Command → Bool) (done : List Command) : Option Command :=
  done.reverse.find? sort

/-- The commands for the pen. -/
def Kind.setsPen : Kind → Bool
  | .penUp | .penDown => true
  | _ => false

/-- Whether the pen is down after some commands: the last one for the pen says it, and `first` where
there is none. -/
def penAfter (first : Bool) (done : List Command) : Bool :=
  match lastOf (·.kind.setsPen) done with
  | none => first
  | some c => c.kind = .penDown

/-- The color of the pen after some commands: the one at the floor of the last index around the
palette, and `first` where no color was chosen. -/
def ColorAfter (palette : Palette) (first : String) (done : List Command) (color : String) : Prop :=
  match lastOf (·.kind = .color) done with
  | none => color = first
  | some c => ∃ value index, c.value = some value ∧ value.floor = .ok index ∧
      color = palette.colorAt index

/-- Whether a new drawing was started. -/
def clearedBy (done : List Command) : Bool :=
  done.any (·.kind = .clear)

/-- For each movement after which no new drawing was started, in order, what was done before it. -/
def drawnMoments (done : List Command) : List (List Command) :=
  ((List.range done.length).filter fun place =>
    (done.drop place).head?.any (·.kind.moves) && !clearedBy (done.drop place)).map done.take

section Snoc

variable (done : List Command) (c : Command)

private theorem lastOf_snoc (sort : Command → Bool) :
    lastOf sort (done ++ [c]) = if sort c then some c else lastOf sort done := by
  cases asked : sort c <;> simp [lastOf, asked]

private theorem penAfter_snoc (first : Bool) : penAfter first (done ++ [c]) =
    if c.kind.setsPen then decide (c.kind = .penDown) else penAfter first done := by
  rw [penAfter, lastOf_snoc]
  cases c.kind.setsPen <;> rfl

private theorem clearedBy_snoc :
    clearedBy (done ++ [c]) = (clearedBy done || decide (c.kind = .clear)) := by
  simp [clearedBy]

private theorem drawnMoments_snoc : drawnMoments (done ++ [c]) =
    if c.kind = .clear then [] else drawnMoments done ++ if c.kind.moves then [done] else [] := by
  -- What is asked of an earlier place changes only where a new drawing is started.
  have earlier : ∀ place ∈ List.range done.length,
      (((done ++ [c]).drop place).head?.any (·.kind.moves) &&
        !clearedBy ((done ++ [c]).drop place)) =
      (((done.drop place).head?.any (·.kind.moves) && !clearedBy (done.drop place)) &&
        !decide (c.kind = .clear)) := by
    intro place inside
    have before : place < done.length := List.mem_range.mp inside
    have front : (done.drop place ++ [c]).head? = (done.drop place).head? := by
      rw [List.head?_append_of_ne_nil]
      simpa using before
    rw [List.drop_append_of_le_length (Nat.le_of_lt before), front, clearedBy_snoc, Bool.not_or,
      Bool.and_assoc]
  have same : ∀ place ∈ List.range done.length, (done ++ [c]).take place = done.take place :=
    fun place inside => List.take_append_of_le_length (Nat.le_of_lt (List.mem_range.mp inside))
  simp only [drawnMoments, List.length_append, List.length_singleton, List.range_succ,
    List.filter_append, List.map_append, List.filter_congr earlier]
  by_cases clear : c.kind = .clear
  · simp [clear, Kind.moves, clearedBy]
  · rw [if_neg clear]
    congr 1
    · simp only [clear, decide_false, Bool.not_false, Bool.and_true]
      exact List.map_congr_left fun place inside => same place (List.mem_filter.mp inside).1
    · cases moves : c.kind.moves <;> simp [moves, clear, clearedBy]

end Snoc

/-! ## What a command draws -/

/-- An instruction that was drawn after some commands, by a turtle that had this pen at first. -/
structure DrawnAfter (palette : Palette) (first : Turtle) (before : List Command)
    (entry : Instruction) : Prop where
  stroke : entry.stroke = if penAfter first.penDown before then .line else .move
  color : ColorAfter palette first.color before entry.color
  penSize : entry.penSize = first.penSize

/-- A scene is one that some commands leave of another: the pen is as they say, and the log has what
they have drawn. -/
structure Drawn (palette : Palette) (origin : Scene) (done : List Command) (scene : Scene) :
    Prop where
  pen : scene.turtle.penDown = penAfter origin.turtle.penDown done
  color : ColorAfter palette origin.turtle.color done scene.turtle.color
  penSize : scene.turtle.penSize = origin.turtle.penSize
  log : ∃ entries, scene.log = (if clearedBy done then [] else origin.log) ++ entries ∧
    List.Forall₂ (DrawnAfter palette origin.turtle) (drawnMoments done) entries

section Steps

variable {palette : Palette} {origin scene : Scene} {done : List Command} {c : Command}

private theorem Drawn.nothing (palette : Palette) (origin : Scene) :
    Drawn palette origin [] origin :=
  ⟨rfl, rfl, rfl, [], by simp [clearedBy], .nil⟩

private theorem Drawn.same_pen (drawn : Drawn palette origin done scene)
    (other : c.kind.setsPen = false) :
    scene.turtle.penDown = penAfter origin.turtle.penDown (done ++ [c]) := by
  rw [penAfter_snoc, other]
  exact drawn.pen

private theorem Drawn.same_color (drawn : Drawn palette origin done scene)
    (other : c.kind ≠ .color) :
    ColorAfter palette origin.turtle.color (done ++ [c]) scene.turtle.color := by
  rw [ColorAfter, lastOf_snoc, if_neg (by simpa using other)]
  exact drawn.color

/-- The log stays as it is under a command that neither moves nor starts a new drawing. -/
private theorem Drawn.same_log (drawn : Drawn palette origin done scene)
    (still : c.kind.moves = false) (kept : c.kind ≠ .clear) :
    ∃ entries, scene.log = (if clearedBy (done ++ [c]) then [] else origin.log) ++ entries ∧
      List.Forall₂ (DrawnAfter palette origin.turtle) (drawnMoments (done ++ [c])) entries := by
  have cleared : clearedBy (done ++ [c]) = clearedBy done := by
    rw [clearedBy_snoc]
    simp [kept]
  have moments : drawnMoments (done ++ [c]) = drawnMoments done := by
    rw [drawnMoments_snoc, if_neg kept, still]
    simp
  rw [cleared, moments]
  exact drawn.log

/-- A movement adds its instruction to the log, with the pen as the commands before have left it. -/
private theorem Drawn.more_log (drawn : Drawn palette origin done scene)
    (moves : c.kind.moves = true) (start finish : Point) :
    ∃ entries, scene.log ++ [⟨if scene.turtle.penDown then .line else .move, start, finish,
        scene.turtle.color, scene.turtle.penSize⟩] =
      (if clearedBy (done ++ [c]) then [] else origin.log) ++ entries ∧
      List.Forall₂ (DrawnAfter palette origin.turtle) (drawnMoments (done ++ [c])) entries := by
  have kept : c.kind ≠ .clear := by
    intro clear
    simp [clear, Kind.moves] at moves
  have cleared : clearedBy (done ++ [c]) = clearedBy done := by
    rw [clearedBy_snoc]
    simp [kept]
  obtain ⟨entries, log, drew⟩ := drawn.log
  rw [cleared, drawnMoments_snoc, if_neg kept, if_pos moves, log, List.append_assoc]
  refine ⟨_, rfl, List.rel_append drew (.cons ⟨?_, drawn.color, drawn.penSize⟩ .nil)⟩
  rw [drawn.pen]

/-- A command that is done leaves what it says of what was there: one case for each of the things
that a command can change. -/
theorem Drawn.step {e : Engine} {turtle : Turtle} {log : List Instruction}
    (drawn : Drawn e.palette origin done e.scene) (obeys : e.Obeys c turtle log) :
    Drawn e.palette origin (done ++ [c]) ⟨turtle, log⟩ := by
  cases obeys with
  | @moved p moves leads inside =>
    have plain : c.kind.setsPen = false ∧ c.kind ≠ .color := by
      revert moves
      cases c.kind <;> simp [Kind.moves, Kind.setsPen]
    exact ⟨drawn.same_pen plain.1, drawn.same_color plain.2, drawn.penSize,
      drawn.more_log moves e.turtle.pose.point p⟩
  | left kind | right kind =>
    exact ⟨drawn.same_pen (by simp [kind, Kind.setsPen]), drawn.same_color (by simp [kind]),
      drawn.penSize, drawn.same_log (by simp [kind, Kind.moves]) (by simp [kind])⟩
  | lifted kind | lowered kind =>
    refine ⟨?_, drawn.same_color (by simp [kind]), drawn.penSize,
      drawn.same_log (by simp [kind, Kind.moves]) (by simp [kind])⟩
    simp [penAfter_snoc, kind, Kind.setsPen]
  | colored kind given counted =>
    refine ⟨drawn.same_pen (by simp [kind, Kind.setsPen]), ?_, drawn.penSize,
      drawn.same_log (by simp [kind, Kind.moves]) (by simp [kind])⟩
    rw [ColorAfter, lastOf_snoc, if_pos (by simpa using kind)]
    exact ⟨_, _, given, counted, rfl⟩
  | cleared kind =>
    refine ⟨drawn.same_pen (by simp [kind, Kind.setsPen]), drawn.same_color (by simp [kind]),
      drawn.penSize, [], ?_, ?_⟩
    · simp [clearedBy_snoc, kind]
    · rw [drawnMoments_snoc, if_pos kind]
      exact .nil

end Steps

/-! ## What many commands draw -/

namespace Stage

variable {stage : Stage} {c : Command} {scene : Scene}

private theorem applied_obeys (stays : ¬ (stage.engine scene).TurnsDown c)
    (through : (stage.applied c scene).ending = .through) :
    (stage.engine scene).Obeys c (stage.applied c scene).scene.turtle
      (stage.applied c scene).scene.log := by
  unfold Stage.applied at through ⊢
  cases applied : (stage.engine scene).apply c with
  | error error =>
    rw [applied] at through
    cases through
  | ok result =>
    obtain ⟨success, after⟩ := result
    obtain ⟨effect, found, -, rfl⟩ := Engine.apply_eq_ok applied
    rcases Engine.effect_obeys found with ⟨-, obeys⟩ | ⟨-, turnsDown⟩
    · exact obeys
    · exact absurd turnsDown stays

/-- A command that goes through on a stage is done as its kind says. -/
theorem act_obeys (through : (stage.act c scene).ending = .through) :
    (stage.engine scene).Obeys c (stage.act c scene).scene.turtle
      (stage.act c scene).scene.log := by
  unfold Stage.act at through ⊢
  split at through
  · rename_i moves
    rw [if_pos moves]
    cases leads : (stage.engine scene).destination c with
    | error error => simp [leads] at through
    | ok p =>
      simp only [leads] at through ⊢
      cases met : findObstacle p stage.obstacles with
      | some hit => simp [met] at through
      | none =>
        simp only [met] at through ⊢
        split at through
        · rename_i inside
          rw [if_pos inside]
          refine applied_obeys ?_ through
          rintro ⟨-, q, other, outside⟩
          cases leads.symm.trans other
          rw [inside] at outside
          cases outside
        · cases through
  · rename_i still
    rw [if_neg still]
    exact applied_obeys (fun turnsDown => still turnsDown.1) through

/-- Commands that all go through leave what they say. The induction is on the commands from the last
one back, since each is done on what those before it have left. -/
theorem actAll_drawn {done : List Command} {final : Scene} {count : Nat}
    (through : stage.actAll done scene = ⟨final, count, .through⟩) :
    Drawn stage.palette scene done final := by
  induction done using List.reverseRecOn generalizing final count with
  | nil =>
    cases through
    exact .nothing stage.palette scene
  | append_singleton done c ih =>
    rw [actAll_append] at through
    generalize stage.actAll done scene = course at ih through
    obtain ⟨middle, made, ending⟩ := course
    cases ending with
    | through =>
      have alone : stage.actAll [c] middle = stage.act c middle := Course.andThen_still _
      rw [Course.andThen_through rfl, alone] at through
      have ending : (stage.act c middle).ending = .through := congrArg Course.ending through
      have left : (stage.act c middle).scene = final := congrArg Course.scene through
      rw [← left]
      exact Drawn.step (e := stage.engine middle) (ih rfl) (act_obeys ending)
    | obstacle | boundary | broken => cases through

end Stage

/-! ## What a run draws -/

/-- A run that nobody interferes with has committed some commands: they are the first ones of its
steps, and the scene is what they make of the one that the run has started from. -/
structure OnTrack (origin : Engine) (obstacles : List Obstacle) (steps done : List Command)
    (left : Option Run) (e : Engine) : Prop where
  stage : e.stage obstacles = origin.stage obstacles
  course : (origin.stage obstacles).actAll done origin.scene = ⟨e.scene, done.length, .through⟩
  harmless : e.observers.Give Response.Harmless
  first : done <+: steps
  rest : ∀ run, left = some run → run.obstacles = obstacles ∧ steps = done ++ run.rest

section Runs

variable {origin e after : Engine} {obstacles : List Obstacle} {steps done : List Command}
  {left : Option Run}

/-- A run that is over leaves the scene on its way. -/
private theorem OnTrack.ended (onTrack : OnTrack origin obstacles steps done left e)
    (stage : after.stage obstacles = e.stage obstacles) (scene : after.scene = e.scene)
    (harmless : after.observers.Give Response.Harmless) :
    OnTrack origin obstacles steps done none after :=
  ⟨stage.trans onTrack.stage, by rw [onTrack.course, scene], harmless, onTrack.first, nofun⟩

/-- Harmless observers that are told leave the scene on its way. -/
private theorem OnTrack.told (onTrack : OnTrack origin obstacles steps done left e) :
    OnTrack origin obstacles steps done left e.notify.2 := by
  obtain ⟨untouched, gives⟩ := Engine.notify_untouched onTrack.harmless
  have stage := e.notify_evolves.becomes.stage obstacles
  exact ⟨stage.trans onTrack.stage, by rw [onTrack.course, untouched.scene], gives, onTrack.first,
    onTrack.rest⟩

/-- A command that is committed takes the scene one step on. -/
private theorem OnTrack.stepped {run : Run} {c : Command} {effect : Engine.Effect}
    {rest : List Command} (onTrack : OnTrack origin obstacles steps done (some run) e)
    (verdict : e.verdict run = .commits c effect rest) :
    OnTrack origin obstacles steps (done ++ [c]) (some ⟨rest, run.index + 1, run.obstacles⟩)
      (e.stepped run.index effect) := by
  obtain ⟨around, program⟩ := onTrack.rest run rfl
  obtain ⟨front, -, -, found, -⟩ := Engine.verdict_commits verdict
  have whole : steps = done ++ [c] ++ rest := by simp [program, front]
  refine ⟨?_, ?_, ?_, ⟨rest, whole.symm⟩, ?_⟩
  · rw [(Engine.stepped_evolves run.index found).becomes.stage, onTrack.stage]
  · have acted := Engine.act_of_commits verdict
    rw [around, onTrack.stage] at acted
    rw [List.length_append]
    exact Stage.actAll_snoc _ onTrack.course acted
  · rw [Engine.stepped_observers]
    exact onTrack.harmless
  · rintro _ ⟨⟩
    exact ⟨around, whole⟩

private theorem onTrack_resumable :
    Engine.Resumable (OnTrack origin obstacles steps) := by
  intro done e run sleeps delay onTrack
  rw [Engine.resume_eq]
  unfold Engine.committed
  cases verdict : e.verdict run with
  | ends status hit =>
    obtain ⟨finished, -⟩ := Engine.finish_idle e status run.index hit sleeps delay
    have recorded : OnTrack origin obstacles steps done none (e.record status run.index hit).idle :=
      onTrack.ended rfl rfl onTrack.harmless
    simp only [List.append_nil, Engine.carryOut, finished, Engine.finish_engine]
    exact recorded.told
  | breaks error =>
    simp only [List.append_nil]
    exact onTrack.ended rfl rfl onTrack.harmless
  | commits c effect rest =>
    have told := (onTrack.stepped verdict).told
    simp only [Engine.carryOut]
    cases notified : (e.stepped run.index effect).notify with
    | mk answer after =>
      rw [notified] at told
      cases answer with
      | error error => exact told.ended rfl rfl told.harmless
      | ok _ => exact told

private theorem begin_onTrack (obstacles : List Obstacle) (steps : List Command)
    (harmless : origin.observers.Give Response.Harmless) :
    OnTrack origin obstacles steps [] (some ⟨steps, 0, obstacles⟩) (origin.begin steps) := by
  refine ⟨rfl, rfl, harmless, List.nil_prefix, ?_⟩
  rintro _ ⟨⟩
  exact ⟨rfl, rfl⟩

end Runs

/-! ## Sessions -/

/-- An operation that only carries a run on, ends it or changes its pace. -/
def Operation.carriesOn : Operation → Bool
  | .resume _ | .finish | .stop | .cancel | .setSpeed _ => true
  | _ => false

section Sessions

variable {origin : Engine} {obstacles : List Obstacle} {commands steps : List Command}
  {opening operation : Operation}

/-- The run that an operation begins on an engine is on its track. -/
private theorem opening_onTrack (accepted : origin.accept commands = .ok steps)
    (begins : opening = .start commands obstacles ∨ opening = .execute commands obstacles)
    (harmless : origin.observers.Give Response.Harmless) :
    let begun := ((Session.ofEngine origin).perform opening).2
    OnTrack origin obstacles steps (Record.blank.next (.ofEngine origin) opening).committed
      begun.run begun.engine := by
  have first := onTrack_resumable [] _ _ 0 none (begin_onTrack obstacles steps harmless)
  have begun := fun count => Engine.startTimes_keeps onTrack_resumable obstacles count accepted first
  rcases begins with rfl | rfl
  · simp only [Record.next, Session.perform, Session.ofEngine, accepted]
    exact begun 0
  · simp only [Record.next, Session.perform, Session.ofEngine, accepted,
      Engine.execute_accepted obstacles accepted]
    exact begun steps.length

private theorem perform_onTrack {s : Session} {r : Record}
    (onTrack : OnTrack origin obstacles steps r.committed s.run s.engine)
    (carriesOn : operation.carriesOn = true) :
    OnTrack origin obstacles steps (r.next s operation).committed (s.perform operation).2.run
      (s.perform operation).2.engine := by
  cases operation with
  | resume count =>
    cases left : s.run with
    | none => simpa only [Session.perform, Record.next, left] using onTrack
    | some run =>
      rw [left] at onTrack
      simp only [Session.perform, Record.next, left, Session.drove]
      exact Engine.resumeTimes_keeps onTrack_resumable count onTrack
  | finish =>
    cases left : s.run with
    | none => simpa only [Session.perform, Record.next, left] using onTrack
    | some run =>
      rw [left] at onTrack
      simp only [Session.perform, Record.next, left, Session.drove]
      exact Engine.resumeTimes_keeps onTrack_resumable _ onTrack
  | stop => exact ⟨onTrack.stage, onTrack.course, onTrack.harmless, onTrack.first, onTrack.rest⟩
  | cancel =>
    cases left : s.run with
    | none => simpa only [Session.perform, Record.next, left] using onTrack
    | some run =>
      obtain ⟨finished, -⟩ := Engine.cancel_idle s.engine 0 none
      have recorded : OnTrack origin obstacles steps r.committed none
          (s.engine.record .stopped s.engine.currentStep none).idle :=
        onTrack.ended rfl rfl onTrack.harmless
      simp only [Session.perform, Record.next, left, Session.drove, finished, Engine.cancel_engine]
      exact recorded.told
  | setSpeed speed =>
    simp only [Session.perform, Record.next, Engine.setSpeed]
    cases clampSpeed speed with
    | error fault => exact onTrack
    | ok speed =>
      exact ⟨onTrack.stage, onTrack.course, onTrack.harmless, onTrack.first, onTrack.rest⟩
  | _ => cases carriesOn

private theorem performAll_onTrack {s : Session} {r : Record} {operations : List Operation}
    (onTrack : OnTrack origin obstacles steps r.committed s.run s.engine)
    (undisturbed : ∀ operation ∈ operations, operation.carriesOn = true) :
    OnTrack origin obstacles steps (r.nextAll s operations).committed
      (s.performAll operations).run (s.performAll operations).engine := by
  induction operations generalizing s r with
  | nil => exact onTrack
  | cons operation rest ih =>
    exact ih (perform_onTrack onTrack (undisturbed operation (by simp)))
      fun other member => undisturbed other (by simp [member])

private theorem strokeCount_append (first second : List Instruction) :
    strokeCount (first ++ second) = strokeCount first + strokeCount second := by
  simp [strokeCount]

/-- The strokes among drawn instructions are those of the movements with the pen down. -/
private theorem strokeCount_drawn {palette : Palette} {first : Turtle}
    {moments : List (List Command)} {entries : List Instruction}
    (drawn : List.Forall₂ (DrawnAfter palette first) moments entries) :
    strokeCount entries = moments.countP (penAfter first.penDown) := by
  induction drawn with
  | nil => rfl
  | @cons before entry _ _ drawn _ ih =>
    have stroke := drawn.stroke
    rw [List.countP_cons, ← ih]
    cases down : penAfter first.penDown before with
    | true => simp [strokeCount, stroke, down]
    | false => simp [strokeCount, stroke, down]

/-- A run that nobody interferes with, wherever it is and however it has ended. It has committed the
first of its steps, and these decide the log. What was there before is kept unless a new drawing was
started, and there follows an instruction for each movement since then, in order: a line if the last
command for the pen before it had lowered the pen, in the color that was chosen last before it, and
with the pen size that the turtle had all the time. So the strokes are those that were there and
those of the movements with the pen down, and it is by their number that a shape or a pattern is
achieved. -/
theorem committed_commands_decide_log (origin : Engine) (commands steps : List Command)
    (obstacles : List Obstacle) (opening : Operation) (operations : List Operation)
    (accepted : origin.accept commands = .ok steps)
    (begins : opening = .start commands obstacles ∨ opening = .execute commands obstacles)
    (undisturbed : ∀ operation ∈ operations, operation.carriesOn = true)
    (harmless : origin.observers.Give Response.Harmless) :
    let s := (Session.ofEngine origin).performAll (opening :: operations)
    let done := (Record.blank.nextAll (.ofEngine origin) (opening :: operations)).committed
    let before := if clearedBy done then [] else origin.drawing
    let strokes :=
      strokeCount before + (drawnMoments done).countP (penAfter origin.turtle.penDown)
    Command.flattenAll commands = .ok steps ∧ (∃ k ≤ steps.length, done = steps.take k) ∧
    (origin.stage obstacles).actAll done origin.scene =
      ⟨s.engine.scene, done.length, .through⟩ ∧
    (∃ entries, s.engine.drawing = before ++ entries ∧
      List.Forall₂ (DrawnAfter origin.palette origin.turtle) (drawnMoments done) entries) ∧
    strokeCount s.engine.drawing = strokes ∧
    ∀ (name : String) (bound : Int),
      ((Objective.shape name bound).met s.engine.turtle s.engine.drawing = true ↔
        bound ≤ strokes) ∧
      ((Objective.pattern name bound).met s.engine.turtle s.engine.drawing = true ↔
        bound ≤ strokes) := by
  intro s done before strokes
  have onTrack := performAll_onTrack (opening_onTrack accepted begins harmless) undisturbed
  change OnTrack origin obstacles steps done s.run s.engine at onTrack
  obtain ⟨entries, log, drew⟩ := (Stage.actAll_drawn onTrack.course).log
  have drawing : s.engine.drawing = before ++ entries := log
  have count : strokeCount s.engine.drawing = strokes := by
    rw [drawing, strokeCount_append, strokeCount_drawn drew]
    rfl
  refine ⟨Engine.flat_of_accept accepted, ?_, onTrack.course, ⟨entries, drawing, drew⟩, count, ?_⟩
  · exact ⟨done.length, onTrack.first.length_le, List.prefix_iff_eq_take.mp onTrack.first⟩
  · intro name bound
    simp [Objective.met, count]

/-- An engine that has drawn a line already. -/
private def withLine : Engine :=
  { Engine.placed ⟨400.0, 300.0, 0.0⟩ with
    drawings := ⟨#[], #[⟨.line, ⟨0.0, 0.0⟩, ⟨400.0, 300.0⟩, "#000000", defaultPenSize⟩]⟩ }

/-- A line, a new drawing, a line in another color, and a movement with the pen lifted. -/
private def redrawing : List Command :=
  [⟨.forward, some (.real 10.0), [], 1, 1⟩, ⟨.clear, none, [], 1, 7⟩,
    ⟨.color, some (.whole 2), [], 1, 13⟩, ⟨.forward, some (.real 10.0), [], 1, 19⟩,
    ⟨.penUp, none, [], 1, 25⟩, ⟨.back, some (.real 5.0), [], 1, 28⟩]

/-- However far the run comes, its strokes are told by the commands that it has committed: the line
that was there and the first one are gone once the new drawing is started, and the last movement is
no stroke. After all six commands there is a line and a movement, both in the color that was
chosen. -/
theorem committed_commands_decide_log_of_redrawing :
    let s := (Session.ofEngine withLine).performAll [.execute redrawing []]
    let done := (Record.blank.nextAll (.ofEngine withLine) [.execute redrawing []]).committed
    withLine.accept redrawing = .ok redrawing ∧
    ∃ k ≤ 6, done = redrawing.take k ∧
      [1, 2, 0, 0, 1, 1, 1][k]? = some (strokeCount s.engine.drawing) ∧
      ((Objective.shape "lines" 2).met s.engine.turtle s.engine.drawing = true ↔ k = 1) ∧
      (k = 6 → s.engine.drawing.map (fun entry => (entry.stroke, entry.color)) =
        [(.line, withLine.palette.colorAt 2), (.move, withLine.palette.colorAt 2)]) := by
  intro s done
  have accepted : withLine.accept redrawing = .ok redrawing := rfl
  obtain ⟨-, ⟨k, atMost, taken⟩, -, ⟨entries, log, drew⟩, count, achieved⟩ :=
    committed_commands_decide_log withLine redrawing redrawing [] (.execute redrawing []) []
      accepted (.inr rfl) nofun nofun
  rw [taken] at log drew count achieved
  have strokes : ∀ k ≤ 6, [1, 2, 0, 0, 1, 1, 1][k]? = some (strokeCount
      (if clearedBy (redrawing.take k) then [] else withLine.drawing) +
        (drawnMoments (redrawing.take k)).countP (penAfter withLine.turtle.penDown)) := by
    decide +kernel
  have two : ∀ k ≤ 6, ∀ total ∈ [1, 2, 0, 0, 1, 1, 1][k]?, 2 ≤ total ↔ k = 1 := by decide
  refine ⟨accepted, k, atMost, taken, ?_, ?_, ?_⟩
  · rw [count]
    exact strokes k atMost
  · rw [(achieved "lines" 2).1]
    exact_mod_cast two k atMost _ (strokes k atMost)
  · rintro rfl
    have moments : drawnMoments (redrawing.take 6) = [redrawing.take 3, redrawing.take 5] := rfl
    have cleared : clearedBy (redrawing.take 6) = true := rfl
    rw [cleared, if_pos rfl, List.nil_append] at log
    rw [moments] at drew
    obtain ⟨line, rest, first, more, rfl⟩ := List.forall₂_cons_left_iff.mp drew
    obtain ⟨move, none, second, ended, rfl⟩ := List.forall₂_cons_left_iff.mp more
    cases ended
    obtain ⟨_, _, ⟨⟩, ⟨⟩, lineColor⟩ := first.color
    obtain ⟨_, _, ⟨⟩, ⟨⟩, moveColor⟩ := second.color
    have lowered : line.stroke = .line := first.stroke
    have lifted : move.stroke = .move := second.stroke
    rw [log]
    simp [lowered, lifted, lineColor, moveColor]

end Sessions

end TurtleScript
