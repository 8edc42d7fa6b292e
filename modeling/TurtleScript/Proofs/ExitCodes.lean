import TurtleScript.Console.Run
import TurtleScript.Proofs.Budget
import TurtleScript.Proofs.Headings
import TurtleScript.Proofs.Sequence

/-!
What a run from the command line comes to. The exit code says whether the text was refused, a
movement was refused, or everything was done, and nothing but that decides it: a text that is read
without a complaint flattens, the engine that is made for it accepts it, and the run has a result
however it ends.
-/
namespace TurtleScript

/-! ## Output -/

namespace Output

private theorem foldl_errorLine_out (parts : List String) (output : Output) :
    (parts.foldl (fun output part => output ++ errorLine part) output).out = output.out := by
  induction parts generalizing output with
  | nil => rfl
  | cons part rest ih => rw [List.foldl_cons, ih, out_append, errorLine, String.append_empty]

/-- The log does not reach the output stream. -/
@[simp] theorem log_out (enabled : Bool) (entries : Unit → List String) :
    (log enabled entries).out = "" := by
  unfold log
  split
  · exact foldl_errorLine_out (entries ()) nothing
  · rfl

end Output

/-! ## Reports -/

/-- What is printed about a run says how it ended and at which step: in its first line, or in the
first two fields of a record. -/
def TellsOutcome (json : Bool) (out line word : String) (step : Int) : Prop :=
  ∃ more, out =
    if json then
      "\x7b\n  \x22status\x22: \x22" ++ word ++ "\x22,\n  \x22step\x22: " ++ toString step ++
        ",\n  " ++ more
    else line ++ "\n" ++ more

/-- The text of a record of three fields or more begins with the first two. -/
theorem Json.write_begins (first second third : String × Value) (rest : List (String × Value)) :
    ∃ more, write (.record (first :: second :: third :: rest)) =
      "\x7b\n  " ++ writtenText first.1 ++ ": " ++ written 1 first.2 ++ ",\n  " ++
        writtenText second.1 ++ ": " ++ written 1 second.2 ++ ",\n  " ++ more := by
  have comma : "," ++ newLine 1 = ",\n  " := by decide
  have opening : "\x7b" ++ newLine 1 = "\x7b\n  " := by decide
  refine ⟨String.intercalate ",\n  " (writtenFields 1 (third :: rest)) ++ newLine 0 ++ "\x7d", ?_⟩
  rw [write, written, writtenFields, writtenFields, block, List.isEmpty_cons, writtenFields]
  rw [if_neg Bool.false_ne_true, comma, opening, String.intercalate_cons_cons,
    String.intercalate_cons_cons]
  simp only [String.append_assoc]

/-- What is printed about an outcome as data begins with how and where the run ended. -/
theorem outcomeReport_json (e : Engine) (success : Bool) (result : RunResult) :
    ∃ more, (outcomeReport true e success result).out =
      "\x7b\n  \x22status\x22: " ++ Json.writtenText result.status.word ++
        ",\n  \x22step\x22: " ++ toString result.step ++ ",\n  " ++ more := by
  have status : Json.writtenText "status" = "\x22status\x22" := by decide +kernel
  have step : Json.writtenText "step" = "\x22step\x22" := by decide +kernel
  have opening : "\x7b\n  \x22status\x22: " = "\x7b\n  " ++ "\x22status\x22" ++ ": " := by decide
  have between : ",\n  \x22step\x22: " = ",\n  " ++ "\x22step\x22" ++ ": " := by decide
  obtain ⟨more, begins⟩ := Json.write_begins ("status", .text result.status.word)
    ("step", .number (.whole result.step)) ("turtle", e.turtle.value)
    [("drawing", .list (e.drawing.map Instruction.value))]
  refine ⟨more ++ "\n", ?_⟩
  change Json.write (outcomeValue e result) ++ "\n" = _
  rw [outcomeValue, begins, opening, between]
  simp only [status, step, Json.written, Json.writtenNumber, String.append_assoc]

theorem outcomeReport_text (e : Engine) (success : Bool) (result : RunResult) :
    (outcomeReport false e success result).out =
      outcomeLine e success result ++ "\n" ++ turtleLine e ++ "\n" := by
  change "" ++ (outcomeLine e success result ++ "\n") ++ (turtleLine e ++ "\n") = _
  rw [String.empty_append, String.append_assoc, String.append_assoc, String.append_assoc]

theorem outcomeReport_tells (json : Bool) (e : Engine) (success : Bool) (result : RunResult) :
    TellsOutcome json (outcomeReport json e success result).out (outcomeLine e success result)
      result.status.word result.step := by
  cases json with
  | false => exact ⟨turtleLine e ++ "\n", by simp [outcomeReport_text, String.append_assoc]⟩
  | true =>
    have word : Json.writtenText result.status.word = "\x22" ++ result.status.word ++ "\x22" := by
      cases result.status <;> decide +kernel
    have opening : "\x7b\n  \x22status\x22: \x22" = "\x7b\n  \x22status\x22: " ++ "\x22" := by
      decide
    have between : "\x22,\n  \x22step\x22: " = "\x22" ++ ",\n  \x22step\x22: " := by decide
    obtain ⟨more, begins⟩ := outcomeReport_json e success result
    refine ⟨more, ?_⟩
    rw [begins, word, opening, between, if_pos rfl]
    simp only [String.append_assoc]

/-! ## The engine of a run -/

namespace RunRequest

/-- The canvas of a run from the command line, and what is in its way. -/
def stage (request : RunRequest) : Stage :=
  ⟨.whole 800, .whole 600, .standard, request.obstacles⟩

/-- What a run from the command line starts from: a fresh turtle at its start, or in the middle of
the canvas heading right, and nothing drawn. -/
def scene (request : RunRequest) : Scene :=
  ⟨.fresh (request.start.getD ⟨400.0, 300.0, 0.0⟩) Palette.standard.first, []⟩

variable {request : RunRequest} {speed : Int}

/-- Every speed makes an engine. -/
private theorem engine_made (paced : request.speed = some speed) :
    ∃ engine, request.engine = .ok engine ∧ engine.active = false ∧ engine.budget = none ∧
      engine.observers = .nobody ∧ engine.stage request.obstacles = request.stage ∧
      engine.scene = request.scene := by
  unfold engine
  rw [paced]
  unfold Engine.create
  cases placed : request.start with
  | none => exact ⟨_, rfl, rfl, rfl, rfl, rfl, by simp only [scene, placed]; rfl⟩
  | some pose => exact ⟨_, rfl, rfl, rfl, rfl, rfl, by simp only [scene, placed]; rfl⟩

/-- The run of commands that can be done is reported: how it ended, and where it left the turtle. -/
private theorem runCommands_reports {commands steps : List Command}
    (paced : request.speed = some speed) (flat : Command.flattenAll commands = .ok steps)
    (fit : ∀ c ∈ steps, c.WellFormed) (steers : request.stage.Steers steps request.scene) :
    ∃ output after result, request.runCommands commands =
        (output, .ok (if result.status.succeeded then .success else .collision)) ∧
      output.out = (outcomeReport request.json after result.status.succeeded result).out ∧
      after.scene = (request.stage.meaningAll commands request.scene).scene ∧
      after.totalSteps = steps.length ∧
      after.lastResult = some result ∧
      (request.stage.meaningAll commands request.scene).result? = some result ∧
      ((request.stage.meaningAll commands request.scene).ending = .through →
        (request.stage.meaningAll commands request.scene).made = steps.length) := by
  obtain ⟨engine, made, idle, unlimited, nobody, stage, scene⟩ := engine_made paced
  have ready : engine.Ready request.obstacles steps := by
    refine ⟨idle, unlimited, ?_, fit, by rwa [stage, scene]⟩
    rw [nobody]
    exact fun _ _ _ _ => nofun
  obtain ⟨shows, result, gives, ends⟩ := ready.execute flat
  rw [stage, scene, ← Stage.meaningAll_flatten _ commands steps flat] at shows gives
  have total := (Session.accepted_totalSteps (s := .ofEngine engine) (ready.accepts flat)
    request.obstacles).2
  simp only [runCommands, made]
  rw [ends.answer, ends.result]
  refine ⟨_, (engine.execute commands request.obstacles).2, result, rfl, ?_, shows, total,
    ends.result, gives, ?_⟩
  · rw [Output.out_append, Output.log_out, String.empty_append]
  · rw [Stage.meaningAll_flatten _ commands steps flat]
    exact request.stage.actAll_made steps request.scene

/-- Complaints about a text end its run before an engine is thought of. -/
private theorem run_refused (request : RunRequest) (isText : request.isText = true) (files : Files)
    (errors : (readProgram request.aliases.words request.source).errors ≠ []) :
    request.run files =
      (Output.log request.logging (fun _ => readingLog request.aliases.words request.source) ++
        refusalReport request.json (readProgram request.aliases.words request.source).reports,
        .ok .failure) := by
  have refused : (readProgram request.aliases.words request.source).ok = false := by
    simpa [Program.ok] using errors
  simp only [run, text, isText, if_true, runText, refused, Bool.false_eq_true, if_false]

/-- A text without complaints is run, and its outcome is all that is printed. -/
private theorem run_clean (isText : request.isText = true) (files : Files)
    (clean : (readProgram request.aliases.words request.source).errors = [])
    {output : Output} {status : ExitStatus}
    (ran : request.runCommands (readProgram request.aliases.words request.source).commands =
      (output, .ok status)) :
    ∃ whole, request.run files = (whole, .ok status) ∧ whole.out = output.out := by
  have accepted : (readProgram request.aliases.words request.source).ok = true := by
    simp [Program.ok, clean]
  simp only [run, text, isText, if_true, runText, accepted, ran]
  refine ⟨_, rfl, ?_⟩
  rw [Output.out_append, Output.log_out, String.empty_append]

end RunRequest

/-! ## Exit codes -/

/-- A run of a text tells the truth about it. It always comes to an exit code. The code is 1 if and
only if there are complaints about the text; then no engine is made, so what an engine would have
been made from does not matter, even where there is no speed to make it with. Otherwise the program
takes the course that its tree means from the start: if a movement is refused then the code is 2,
and what is printed names the obstacle or the edge and counts the commands before that movement; and
else the code is 0, and what is printed says that all steps of the program were completed. That is
the result which the engine has recorded. -/
theorem exit_codes_tell_the_truth (request : RunRequest) (files : Files) (speed : Int)
    (isText : request.isText = true) (paced : request.speed = some speed)
    (steers : (readProgram request.aliases.words request.source).errors = [] → ∀ steps,
      Command.flattenAll (readProgram request.aliases.words request.source).commands = .ok steps →
        request.stage.Steers steps request.scene) :
    let program := readProgram request.aliases.words request.source
    let course := request.stage.meaningAll program.commands request.scene
    ∃ output status, request.run files = (output, .ok status) ∧
      (status.code = 1 ↔ program.errors ≠ []) ∧
      (program.errors ≠ [] → ∀ speed start obstacles,
        { request with speed, start, obstacles }.run files = (output, .ok .failure)) ∧
      (program.errors = [] → ∃ steps after result,
        Command.flattenAll program.commands = .ok steps ∧
        after.scene = course.scene ∧ after.totalSteps = steps.length ∧
        after.lastResult = some result ∧
        output.out = (outcomeReport request.json after (status.code = 0) result).out ∧
        match course.ending with
        | .through => status.code = 0 ∧ result = ⟨.completed, steps.length, none⟩ ∧
          TellsOutcome request.json output.out s!"[ok] >>> completed after {steps.length} steps"
            "completed" steps.length
        | .obstacle hit => status.code = 2 ∧ result = ⟨.obstacle, course.made, some hit⟩ ∧
          TellsOutcome request.json output.out s!"[collision] >>> obstacle at step {course.made}"
            "obstacle" course.made
        | .boundary => status.code = 2 ∧ result = ⟨.boundary, course.made, none⟩ ∧
          TellsOutcome request.json output.out s!"[collision] >>> boundary at step {course.made}"
            "boundary" course.made
        | .broken _ => False) := by
  intro program course
  by_cases clean : program.errors = []
  · obtain ⟨steps, flat, fit⟩ := readProgram_flatten request.aliases.words request.source
    obtain ⟨output, after, result, ran, printed, shows, total, recorded, gives, made⟩ :=
      RunRequest.runCommands_reports paced flat fit (steers clean steps flat)
    obtain ⟨whole, run, same⟩ := RunRequest.run_clean isText files clean ran
    rw [printed] at same
    change course.result? = some result at gives
    change course.ending = .through → course.made = steps.length at made
    have accepted : ¬ program.errors ≠ [] := fun errors => errors clean
    have tells : TellsOutcome request.json whole.out
        (outcomeLine after result.status.succeeded result) result.status.word result.step := by
      rw [same]
      exact outcomeReport_tells request.json after result.status.succeeded result
    unfold Course.result? at gives
    cases ended : course.ending with
    | broken error => simp [ended] at gives
    | through =>
      rw [ended, made ended] at gives
      cases gives
      have line : outcomeLine after true ⟨.completed, steps.length, none⟩ =
          s!"[ok] >>> completed after {steps.length} steps" := by
        rw [outcomeLine, if_pos rfl, total]
        rfl
      refine ⟨whole, .success, run, iff_of_false nofun accepted, fun errors => absurd clean errors,
        fun _ => ⟨steps, after, _, flat, shows, total, recorded, same, rfl, rfl, ?_⟩⟩
      rw [← line]
      exact tells
    | obstacle | boundary =>
      rw [ended] at gives
      cases gives
      exact ⟨whole, .collision, run, iff_of_false nofun accepted,
        fun errors => absurd clean errors,
        fun _ => ⟨steps, after, _, flat, shows, total, recorded, same, rfl, rfl, tells⟩⟩
  · exact ⟨_, .failure, request.run_refused isText files clean, iff_of_true rfl clean,
      fun _ speed start obstacles =>
        RunRequest.run_refused { request with speed, start, obstacles } isText files clean,
      fun none => absurd none clean⟩

private def turningRequest : RunRequest where
  source := "repeat 2 [pu lt 90]"
  isText := true
  start := some ⟨10.0, 20.0, 90.0⟩
  obstacles := [⟨0.0, 0.0, 5.0, 5.0, .wall⟩]

private def unreadableRequest : RunRequest where
  source := "fd 10 ]"
  isText := true

private def noFiles : Files := fun path => .error (.missing path)

/-- Two turns with the pen up are reported as four steps, with code 0, and a stray bracket ends with
code 1. -/
theorem exit_codes_of_turning_and_unreadable :
    (∃ output status more, turningRequest.run noFiles = (output, .ok status) ∧ status.code = 0 ∧
      output.out = "[ok] >>> completed after 4 steps\n" ++ more) ∧
    ∃ output status, unreadableRequest.run noFiles = (output, .ok status) ∧ status.code = 1 := by
  refine ⟨?_, ?_⟩
  · obtain ⟨output, status, run, -, -, accepted⟩ :=
      exit_codes_tell_the_truth turningRequest noFiles 10 rfl rfl fun _ steps _ =>
        Stage.steers_of_steerable steps (by decide +kernel)
    obtain ⟨steps, after, result, flat, -, -, -, -, told⟩ := accepted (by decide +kernel)
    have four : (Command.flattenAll (readProgram turningRequest.aliases.words
        turningRequest.source).commands).toOption.map List.length = some 4 := by decide +kernel
    have completed : (turningRequest.stage.meaningAll (readProgram turningRequest.aliases.words
        turningRequest.source).commands turningRequest.scene).result?.map RunResult.status =
          some .completed := by decide +kernel
    obtain ⟨_, gives, ended⟩ := Option.map_eq_some_iff.mp completed
    obtain ⟨through, -⟩ | ⟨-, other⟩ := Course.result?_cases gives
    · rw [flat] at four
      rw [through] at told
      obtain ⟨success, -, more, printed⟩ := told
      rw [Option.some.inj four] at printed
      exact ⟨output, status, more, run, success, printed⟩
    · rw [ended] at other
      cases other <;> contradiction
  · obtain ⟨output, status, run, refused, -, -⟩ :=
      exit_codes_tell_the_truth unreadableRequest noFiles 10 rfl rfl fun _ steps _ =>
        Stage.steers_of_steerable steps (by decide +kernel)
    exact ⟨output, status, run, refused.mpr (by decide +kernel)⟩

end TurtleScript
