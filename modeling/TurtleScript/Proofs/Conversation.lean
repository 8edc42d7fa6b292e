import Mathlib.Data.List.Induction
import Mathlib.Data.List.Infix
import Mathlib.Data.Nat.Find
import TurtleScript.Console.Shell
import TurtleScript.Proofs.Headings
import TurtleScript.Proofs.Margins
import TurtleScript.Proofs.Sequence

/-!
A conversation with the shell. The lines that are entered are divided into chunks, each of them as
short as can be without leaving a bracket open, and the shell answers one chunk after the other; it
counts brackets one line at a time, which is the same as counting them in the joined lines. What the
shell does can always be done: its engine has no budget and no observers, and the turtle never comes
to a heading without a sine. So no error ends a conversation, and only a word of farewell between
two chunks or the end of the lines does.
-/
namespace TurtleScript

open Text

/-! ## Chunks of lines -/

/-- The lines hold at most as many opening brackets as closing ones. -/
def Closed (entered : List String) : Prop :=
  (tokenTexts (lines entered)).count "[" ≤ (tokenTexts (lines entered)).count "]"

instance : DecidablePred Closed := fun entered =>
  inferInstanceAs (Decidable ((tokenTexts (lines entered)).count "[" ≤ _))

/-- However many of the lines are taken, a bracket is left open. -/
def Waits (entered : List String) : Prop :=
  ∀ first, first <+: entered → first ≠ [] → ¬ Closed first

/-- A run of lines that is closed, and no shorter one is. -/
structure IsChunk (chunk : List String) : Prop where
  nonempty : chunk ≠ []
  closed : Closed chunk
  shortest : ∀ first, first <+: chunk → first ≠ [] → Closed first → first = chunk

instance : DecidablePred Waits := fun entered =>
  decidable_of_iff (∀ first ∈ entered.inits, first ≠ [] → ¬ Closed first)
    ⟨fun all first part => all first ((List.mem_inits first entered).mpr part),
      fun waits first part => waits first ((List.mem_inits first entered).mp part)⟩

instance : DecidablePred IsChunk := fun chunk =>
  decidable_of_iff (chunk ≠ [] ∧ Closed chunk ∧
      ∀ first ∈ chunk.inits, first ≠ [] → Closed first → first = chunk)
    ⟨fun ⟨nonempty, closed, all⟩ =>
        ⟨nonempty, closed, fun first part => all first ((List.mem_inits first chunk).mpr part)⟩,
      fun ⟨nonempty, closed, shortest⟩ =>
        ⟨nonempty, closed, fun first part => shortest first ((List.mem_inits first chunk).mp part)⟩⟩

/-- The first line is a word of farewell. -/
def leaves (entered : List String) : Bool := entered.head?.any isFarewell

/-- How lines are divided: into chunks, none of which starts with a word of farewell, and a rest
that starts with one or is no chunk yet. -/
structure Divides (input : List String) (chunks : List (List String)) (rest : List String) :
    Prop where
  joined : input = chunks.flatten ++ rest
  chunk : ∀ chunk ∈ chunks, IsChunk chunk
  stays : ∀ chunk ∈ chunks, leaves chunk = false
  rest : leaves rest = true ∨ Waits rest

theorem leaves_append {first : List String} (nonempty : first ≠ []) (rest : List String) :
    leaves (first ++ rest) = leaves first := by
  rw [leaves, List.head?_append_of_ne_nil _ nonempty, leaves]

theorem not_leaves_of_append {entered more : List String}
    (stays : leaves (entered ++ more) = false) : leaves entered = false := by
  cases entered with
  | nil => rfl
  | cons first rest => exact stays

theorem Waits.of_prefix {first entered : List String} (waits : Waits entered)
    (part : first <+: entered) : Waits first :=
  fun shorter inside => waits shorter (inside.trans part)

/-- Before its last line a chunk is left open. -/
theorem IsChunk.waits {entered : List String} {last : String}
    (chunk : IsChunk (entered ++ [last])) : Waits entered := by
  intro first part nonempty closed
  have whole := chunk.shortest first (part.trans (List.prefix_append _ _)) nonempty closed
  have length := part.length_le
  rw [whole, List.length_append, List.length_singleton] at length
  omega

/-- Lines that do not wait begin with a chunk. -/
private theorem exists_chunk {input : List String} (ready : ¬ Waits input) :
    ∃ chunk later, input = chunk ++ later ∧ IsChunk chunk := by
  have some : ∃ count, 0 < count ∧ count ≤ input.length ∧ Closed (input.take count) := by
    simp only [Waits, not_forall, not_not] at ready
    obtain ⟨first, part, nonempty, closed⟩ := ready
    refine ⟨first.length, List.length_pos_iff.mpr nonempty, part.length_le, ?_⟩
    rwa [← List.prefix_iff_eq_take.mp part]
  obtain ⟨positive, inside, closed⟩ := Nat.find_spec some
  refine ⟨input.take (Nat.find some), input.drop (Nat.find some),
    (List.take_append_drop _ _).symm, ?_, closed, ?_⟩
  · rw [← List.length_pos_iff, List.length_take]
    omega
  · intro first part nonempty firstClosed
    have whole : first <+: input := part.trans (List.take_prefix _ _)
    have same := List.prefix_iff_eq_take.mp whole
    have least := Nat.find_min' some
      ⟨List.length_pos_iff.mpr nonempty, whole.length_le, same ▸ firstClosed⟩
    have length := part.length_le
    rw [List.length_take] at length
    rw [same]
    congr 1
    omega

/-- Every list of lines can be divided. The induction is on the lines, of which every chunk takes
some. -/
theorem exists_division (input : List String) : ∃ chunks rest, Divides input chunks rest := by
  by_cases ends : leaves input = true ∨ Waits input
  · exact ⟨[], input, rfl, nofun, nofun, ends⟩
  · obtain ⟨stays, ready⟩ := not_or.mp ends
    obtain ⟨chunk, later, rfl, isChunk⟩ := exists_chunk ready
    have shorter : later.length < (chunk ++ later).length := by
      have := List.length_pos_iff.mpr isChunk.nonempty
      rw [List.length_append]
      omega
    obtain ⟨chunks, rest, divides⟩ := exists_division later
    rw [leaves_append isChunk.nonempty, Bool.not_eq_true] at stays
    refine ⟨chunk :: chunks, rest, ?_, ?_, ?_, divides.rest⟩
    · rw [divides.joined, List.flatten_cons, List.append_assoc]
    · exact List.forall_mem_cons.mpr ⟨isChunk, divides.chunk⟩
    · exact List.forall_mem_cons.mpr ⟨stays, divides.stays⟩
termination_by input.length

theorem Divides.tail {chunk later rest : List String} {chunks : List (List String)}
    (divides : Divides (chunk ++ later) (chunk :: chunks) rest) : Divides later chunks rest where
  joined := by
    have joined := divides.joined
    rwa [List.flatten_cons, List.append_assoc, List.append_cancel_left_eq] at joined
  chunk other member := divides.chunk other (List.mem_cons_of_mem chunk member)
  stays other member := divides.stays other (List.mem_cons_of_mem chunk member)
  rest := divides.rest

/-- What begins with a chunk that does not leave is not the rest of a division. -/
private theorem not_rest {chunk later : List String} (isChunk : IsChunk chunk)
    (stays : leaves chunk = false) :
    ¬ (leaves (chunk ++ later) = true ∨ Waits (chunk ++ later)) := by
  rintro (left | waits)
  · rw [leaves_append isChunk.nonempty, stays] at left
    cases left
  · exact waits chunk (List.prefix_append _ _) isChunk.nonempty isChunk.closed

/-- Lines are divided in one way only. -/
theorem Divides.unique {input rest left : List String} {chunks others : List (List String)}
    (divides : Divides input chunks rest) (other : Divides input others left) :
    others = chunks ∧ left = rest := by
  induction chunks generalizing input others with
  | nil =>
    have whole : input = rest := divides.joined
    subst whole
    cases others with
    | nil => exact ⟨rfl, other.joined.symm⟩
    | cons chunk later =>
      have starts := other.joined
      rw [List.flatten_cons, List.append_assoc] at starts
      have ends := divides.rest
      rw [starts] at ends
      exact absurd ends (not_rest (other.chunk chunk (by simp)) (other.stays chunk (by simp)))
  | cons chunk later ih =>
    have starts := divides.joined
    rw [List.flatten_cons, List.append_assoc] at starts
    subst starts
    have isChunk := divides.chunk chunk (by simp)
    cases others with
    | nil =>
      have ends := other.rest
      rw [← show chunk ++ (later.flatten ++ rest) = left from other.joined] at ends
      exact absurd ends (not_rest isChunk (divides.stays chunk (by simp)))
    | cons second more =>
      have isSecond := other.chunk second (by simp)
      have same : second = chunk := by
        have starts := other.joined
        rw [List.flatten_cons, List.append_assoc] at starts
        have part : second <+: chunk ++ (later.flatten ++ rest) := ⟨_, starts.symm⟩
        rcases List.prefix_or_prefix_of_prefix part (List.prefix_append _ _) with inside | around
        · exact isChunk.shortest second inside isSecond.nonempty isSecond.closed
        · exact (isSecond.shortest chunk around isChunk.nonempty isChunk.closed).symm
      subst same
      obtain ⟨rfl, rfl⟩ := ih divides.tail other.tail
      exact ⟨rfl, rfl⟩

/-! ## The engine of a shell -/

/-- An idle engine that nothing can stop but what is on the canvas: it has no budget, its observers
are silent, it can be reset, and the turtle's heading has a sine. -/
structure Engine.Calm (e : Engine) : Prop where
  idle : e.active = false
  unlimited : e.budget = none
  silent : ∀ step, e.observers.SilentAt step
  width : e.width = .whole 800
  height : e.height = .whole 600
  steerable : e.scene.Steerable

namespace Engine

variable {e : Engine}

/-- A calm engine runs whatever was read to an end, and is calm again. -/
theorem Calm.execute (calm : e.Calm) (keywords : Keywords) (text : String) :
    (e.execute (readProgram keywords text).commands []).2.Calm ∧
      ∃ success,
        (e.execute (readProgram keywords text).commands []).1.progress = .returned success := by
  obtain ⟨steps, flat, fit⟩ := readProgram_flatten keywords text
  have ready : e.Ready [] steps :=
    ⟨calm.idle, calm.unlimited, fun step _ _ => calm.silent step, fit,
      Stage.steers_of_steerable steps calm.steerable⟩
  have keeps := execute_keeps [] (ready.accepts flat) ready.silent
  obtain ⟨shows, result, -, ends⟩ := ready.execute flat
  have stage := keeps.stage []
  refine ⟨⟨(execute_idle [] (ready.accepts flat) ends.answer).active, ?_, ?_, ?_, ?_, ?_⟩,
    _, ends.answer⟩
  · exact keeps.budget.trans calm.unlimited
  · exact fun step => keeps.silent step (calm.silent step)
  · exact (congrArg Stage.width stage).trans calm.width
  · exact (congrArg Stage.height stage).trans calm.height
  · rw [shows]
    exact Stage.actAll_steerable steps calm.steerable

private theorem restart_steerable (e : Engine) (pose : Pose) :
    (e.restart pose).scene.Steerable :=
  radians_normalizeAngle_not_isInf pose.angle

theorem Calm.reset (calm : e.Calm) : ∃ after, e.reset none = (.ok (), after) ∧ after.Calm := by
  have center : centerOf e.width e.height = .ok ⟨400.0, 300.0, 0.0⟩ := by
    rw [calm.width, calm.height]
    rfl
  have quiet : (e.restart ⟨400.0, 300.0, 0.0⟩).observers.SilentAt
      (e.restart ⟨400.0, 300.0, 0.0⟩).currentStep := calm.silent _
  obtain ⟨observers, told, kept⟩ := notify_silent quiet
  refine ⟨{ e.restart ⟨400.0, 300.0, 0.0⟩ with observers }, ?_, ?_⟩
  · simp only [Engine.reset, resetWith, Option.elim_none, center, told]
  · exact ⟨calm.idle, calm.unlimited, fun step => kept step (calm.silent step), calm.width,
      calm.height, restart_steerable e _⟩

end Engine

/-! ## Wishes -/

namespace Shell

variable {s : Shell}

/-- Whatever a text asks for is done, and the shell is left between two chunks as it was. -/
structure Fulfils (s : Shell) (turn : Turn) : Prop where
  goesOn : turn.escaped = none
  calm : turn.shell.engine.Calm
  chunk : turn.shell.chunk = s.chunk

/-- The commands that are read can be printed: no number in them is too long. -/
theorem treeOutput_read (s : Shell) (keywords : Keywords) (text : String) :
    ∃ tree, s.treeOutput (readProgram keywords text).commands = .ok tree := by
  unfold treeOutput
  split
  · have told := (Command.shownAll_told (readProgram keywords text).commands).map
      fun text => Output.line s!"[tree] >>> {text}"
    apply told.told
    rintro ⟨c, member, long⟩
    exact (readProgram_proper keywords text c member).short long
  · exact ⟨_, rfl⟩

private theorem runSource_fulfils (calm : s.engine.Calm) (text : String) :
    s.Fulfils (s.runSource text) := by
  obtain ⟨calmAfter, success, returned⟩ := calm.execute s.aliases.words text
  obtain ⟨tree, shown⟩ := s.treeOutput_read s.aliases.words text
  unfold runSource
  dsimp only
  split
  · simp only [shown, runCommands, returned]
    exact ⟨rfl, calmAfter, rfl⟩
  · exact ⟨rfl, calm, rfl⟩

private theorem configure_fulfils (calm : s.engine.Calm) (json : String) :
    s.Fulfils (s.configure json) := by
  unfold configure
  split <;> exact ⟨rfl, calm, rfl⟩

theorem fulfil_fulfils (calm : s.engine.Calm) (wish : Wish) : s.Fulfils (s.fulfil wish) := by
  cases wish with
  | nothing | toggleVerbose | state | samples | listAliases => exact ⟨rfl, calm, rfl⟩
  | reset =>
    obtain ⟨after, done, calmAfter⟩ := calm.reset
    simp only [fulfil, reset, done]
    exact ⟨rfl, calmAfter, rfl⟩
  | sample name =>
    simp only [fulfil]
    split
    · exact ⟨rfl, calm, rfl⟩
    · exact runSource_fulfils calm _
  | addAliases json => exact configure_fulfils calm json
  | program text => exact runSource_fulfils calm text

/-! ## Lines -/

/-- A shell that was given the first lines of a chunk. -/
def holding (s : Shell) (entered : List String) : Shell :=
  { s with chunk := ⟨entered, bracketDepth (lines entered)⟩ }

private theorem holding_nothing (between : s.chunk = .empty) : s.holding [] = s := by
  have none : (⟨[], bracketDepth (lines [])⟩ : Chunk) = .empty := by decide +kernel
  unfold holding
  rw [none, ← between]

/-- Adding the brackets of one more line counts those of the joined lines. -/
private theorem holding_add (entered : List String) (line : String) :
    (s.holding entered).chunk.add line = (s.holding (entered ++ [line])).chunk := by
  simp only [holding, Chunk.add, bracketDepth_lines, List.map_append, List.sum_append,
    List.map_cons, List.map_nil, List.sum_singleton]

private theorem holding_complete (entered : List String) :
    (s.holding entered).chunk.complete = decide (Closed entered) := by
  simp only [holding, Chunk.complete, bracketDepth, Closed, Int.ofNat_eq_natCast]
  apply decide_eq_decide.mpr
  omega

/-- What asks for a line after so many others of its chunk. -/
def promptAfter (count : Nat) : String := if count = 0 then ">>> " else "... "

private theorem holding_prompt (entered : List String) :
    (s.holding entered).prompt = promptAfter entered.length := by
  cases entered <;> rfl

/-- Only the first line of a chunk can be a farewell. -/
private theorem holding_stays {entered : List String} {line : String}
    (stays : leaves (entered ++ [line]) = false) :
    ((s.holding entered).chunk.lines.isEmpty && isFarewell line) = false := by
  cases entered with
  | nil => simpa [leaves, holding] using stays
  | cons first rest => rfl

/-- A line is kept as long as a bracket is left open, and else its chunk is answered. -/
private theorem feed_holding {entered : List String} {line : String}
    (stays : leaves (entered ++ [line]) = false) :
    (s.holding entered).feed line = some (if Closed (entered ++ [line]) then
        { s with chunk := .empty }.fulfil (.ofText (strip (lines (entered ++ [line]))))
      else ⟨.nothing, s.holding (entered ++ [line]), none⟩) := by
  unfold feed
  dsimp only
  rw [holding_stays stays, holding_add, holding_complete]
  by_cases closed : Closed (entered ++ [line])
  · rw [decide_eq_true closed, if_pos closed]
    rfl
  · rw [decide_eq_false closed, if_neg closed]
    rfl

/-- What is printed while lines are fed to a shell, and the shell that is left, unless one of them
leaves it or an error ends it. -/
def feedAll (s : Shell) : List String → Option (Output × Shell)
  | [] => some (.nothing, s)
  | line :: rest =>
    match s.feed line with
    | none => none
    | some turn =>
      match turn.escaped with
      | some _ => none
      | none =>
        (turn.shell.feedAll rest).map fun (more, after) =>
          (.text s.prompt ++ turn.output ++ more, after)

private theorem feedAll_cons {line : String} {turn : Turn} (fed : s.feed line = some turn)
    (goesOn : turn.escaped = none) (rest : List String) :
    s.feedAll (line :: rest) = (turn.shell.feedAll rest).map fun (more, after) =>
      (.text s.prompt ++ turn.output ++ more, after) := by
  simp only [feedAll, fed, goesOn]

private theorem feedAll_cons_eq_some {line : String} {rest : List String} {said : Output}
    {after : Shell} (fed : s.feedAll (line :: rest) = some (said, after)) :
    ∃ turn more, s.feed line = some turn ∧ turn.escaped = none ∧
      turn.shell.feedAll rest = some (more, after) ∧
      said = .text s.prompt ++ turn.output ++ more := by
  cases turned : s.feed line with
  | none => simp [feedAll, turned] at fed
  | some turn =>
    cases escaped : turn.escaped with
    | some error => simp [feedAll, turned, escaped] at fed
    | none =>
      rw [feedAll_cons turned escaped] at fed
      obtain ⟨⟨more, last⟩, restFed, same⟩ := Option.map_eq_some_iff.mp fed
      cases same
      exact ⟨turn, more, rfl, escaped, restFed, rfl⟩

private theorem feedAll_append {first : List String} {said : Output} {after : Shell}
    (fed : s.feedAll first = some (said, after)) (later : List String) :
    s.feedAll (first ++ later) =
      (after.feedAll later).map fun (more, last) => (said ++ more, last) := by
  induction first generalizing s said with
  | nil =>
    cases fed
    simp
  | cons line rest ih =>
    obtain ⟨turn, more, turned, goesOn, restFed, rfl⟩ := feedAll_cons_eq_some fed
    rw [List.cons_append, feedAll_cons turned goesOn, ih restFed, Option.map_map]
    simp only [Function.comp_def, Output.append_assoc]

/-- A conversation goes on after the lines that were fed. -/
private theorem converse_feedAll {first : List String} {said : Output} {after : Shell}
    (fed : s.feedAll first = some (said, after)) (later : List String) :
    s.converse (first ++ later) = (said ++ (after.converse later).1, (after.converse later).2) := by
  induction first generalizing s said with
  | nil =>
    cases fed
    simp
  | cons line rest ih =>
    obtain ⟨turn, more, turned, goesOn, restFed, rfl⟩ := feedAll_cons_eq_some fed
    simp only [List.cons_append, converse, turned, goesOn, ih restFed, Output.append_assoc]

/-- What asks for so many lines of one chunk. -/
def prompts : Nat → Output
  | 0 => .nothing
  | count + 1 => prompts count ++ .text (promptAfter count)

/-- Lines that leave a bracket open are kept, and nothing else happens. The induction is on the
lines from the last one back. -/
private theorem feedAll_open {entered : List String} (between : s.chunk = .empty)
    (stays : leaves entered = false) (waits : Waits entered) :
    s.feedAll entered = some (prompts entered.length, s.holding entered) := by
  induction entered using List.reverseRecOn with
  | nil => rw [holding_nothing between, feedAll, List.length_nil, prompts]
  | append_singleton entered line ih =>
    have before := ih (not_leaves_of_append stays) (waits.of_prefix (List.prefix_append _ _))
    have more : ¬ Closed (entered ++ [line]) := waits _ List.prefix_rfl (by simp)
    have fed : (s.holding entered).feed line = some _ := feed_holding stays
    rw [if_neg more] at fed
    rw [feedAll_append before, feedAll_cons fed rfl]
    simp only [feedAll, Option.map_some, holding_prompt, List.length_append,
      List.length_singleton, prompts, Output.append_nothing]

/-- The lines of a chunk are asked for and answered together. -/
theorem feedAll_chunk {chunk : List String} (between : s.chunk = .empty)
    (isChunk : IsChunk chunk) (stays : leaves chunk = false)
    (goesOn : (s.fulfil (.ofText (strip (lines chunk)))).escaped = none) :
    s.feedAll chunk =
      some (prompts chunk.length ++ (s.fulfil (.ofText (strip (lines chunk)))).output,
        (s.fulfil (.ofText (strip (lines chunk)))).shell) := by
  obtain ⟨entered, last, rfl⟩ : ∃ entered last, chunk = entered ++ [last] :=
    ⟨_, _, (List.dropLast_concat_getLast isChunk.nonempty).symm⟩
  have same : { s with chunk := .empty } = s := by rw [← between]
  have before := feedAll_open between (not_leaves_of_append stays) isChunk.waits
  have fed : (s.holding entered).feed last = some _ := feed_holding stays
  rw [if_pos isChunk.closed, same] at fed
  rw [feedAll_append before, feedAll_cons fed goesOn]
  simp only [feedAll, Option.map_some, holding_prompt, List.length_append, List.length_singleton,
    prompts, Output.append_assoc, Output.append_nothing]

/-! ## Conversations -/

/-- What a shell prints that is given chunks: for each of them it asks for its lines and does what
their text asks for. -/
def answers (s : Shell) : List (List String) → Output
  | [] => .nothing
  | chunk :: later =>
    let turn := s.fulfil (.ofText (strip (lines chunk)))
    prompts chunk.length ++ turn.output ++ turn.shell.answers later

/-- What a shell prints at the end: after a word of farewell, or when there are no lines for what it
asks for. -/
def parting (rest : List String) : Output :=
  if leaves rest then .line (promptAfter 0 ++ farewell)
  else prompts rest.length ++ .lines [promptAfter rest.length, farewell]

/-- The rest of a division ends a conversation. -/
private theorem converse_rest {rest : List String} (between : s.chunk = .empty)
    (ends : leaves rest = true ∨ Waits rest) : s.converse rest = (parting rest, .ok ()) := by
  unfold parting
  split
  · rename_i left
    obtain ⟨line, later, rfl⟩ : ∃ line later, rest = line :: later := by
      cases rest with
      | nil => cases left
      | cons line later => exact ⟨line, later, rfl⟩
    have farewell : isFarewell line = true := by simpa [leaves] using left
    simp [converse, feed, prompt, between, Chunk.empty, farewell, promptAfter]
  · rename_i stays
    have waits : Waits rest := ends.resolve_left stays
    have kept := feedAll_open between (by simpa using stays) waits
    have asked := converse_feedAll kept []
    rw [List.append_nil] at asked
    rw [asked]
    simp only [converse, holding_prompt]

/-- A shell answers the chunks of the lines that it is given, one after the other. The induction is
on the chunks; every answer leaves the shell fit for the next one. -/
theorem converse_divides {input rest : List String} {chunks : List (List String)}
    (between : s.chunk = .empty) (calm : s.engine.Calm) (divides : Divides input chunks rest) :
    s.converse input = (s.answers chunks ++ parting rest, .ok ()) := by
  induction chunks generalizing s input with
  | nil =>
    have whole : input = rest := divides.joined
    subst whole
    rw [converse_rest between divides.rest, answers, Output.nothing_append]
  | cons chunk later ih =>
    have starts := divides.joined
    rw [List.flatten_cons, List.append_assoc] at starts
    subst starts
    have fulfils := fulfil_fulfils calm (.ofText (strip (lines chunk)))
    have fed := feedAll_chunk between (divides.chunk chunk (by simp))
      (divides.stays chunk (by simp)) fulfils.goesOn
    rw [converse_feedAll fed, ih (fulfils.chunk.trans between) fulfils.calm divides.tail]
    simp only [answers, Output.append_assoc]

/-- A new shell can answer. -/
theorem begin_calm (files : Files) (path : String) (verbose logging : Bool) :
    ∃ opening, Shell.begin files path verbose logging = .ok opening ∧
      opening.shell.chunk = .empty ∧ opening.shell.engine.Calm := by
  have created : Engine.create { speed := .whole consoleSpeed } =
      .ok { Engine.placed ⟨400.0, 300.0, 0.0⟩ with speed := 10 } := rfl
  have calm : { Engine.placed ⟨400.0, 300.0, 0.0⟩ with speed := 10 }.Calm :=
    ⟨rfl, rfl, fun _ => nofun, rfl, rfl, by decide +kernel⟩
  unfold Shell.begin
  rw [created]
  exact ⟨_, rfl, rfl, calm⟩

end Shell

/-! ## The text of a chunk -/

/-- Only the whole text is run as a program. -/
theorem Wish.ofText_program {text program : String} (wish : Wish.ofText text = .program program) :
    program = text := by
  unfold Wish.ofText at wish
  dsimp only at wish
  repeat' split at wish
  all_goals cases wish
  rfl

/-- A line of blanks alone is closed. -/
private theorem closed_of_blank {line : String} (blank : ∀ c ∈ line.toList, isBlank c = true) :
    Closed [line] := by
  have none : tokens line = [] := by
    rw [tokens, lexFrom_of_gap .start (gap_of_blanks blank)]
  simp [Closed, lines, tokenTexts, none]

/-- The first line of a chunk is not blank if another one follows it; so the margin of a chunk does
not go beyond its first line. -/
theorem IsChunk.margin {chunk : List String} (isChunk : IsChunk chunk)
    (each : ∀ line ∈ chunk, '\n' ∉ line.toList) : '\n' ∉ indentation (lines chunk) := by
  obtain ⟨first, rest, rfl⟩ := List.exists_cons_of_ne_nil isChunk.nonempty
  have inLine : '\n' ∉ first.toList := each first (by simp)
  have margin : '\n' ∉ first.toList.takeWhile isBlank := fun member =>
    inLine (List.takeWhile_subset _ member)
  cases rest with
  | nil => simpa [indentation, lines] using margin
  | cons second others =>
    have visible : (first.toList.takeWhile isBlank).length ≠ first.toList.length := by
      intro whole
      have blank : ∀ c ∈ first.toList, isBlank c = true := by
        rw [← List.takeWhile_eq_self_iff]
        exact (List.takeWhile_prefix _).eq_of_length whole
      have all := isChunk.shortest [first] ⟨second :: others, rfl⟩ (by simp)
        (closed_of_blank blank)
      cases all
    rw [indentation, lines_cons_cons, String.append_assoc, String.toList_append,
      List.takeWhile_append, if_neg visible]
    exact margin

/-! ## Conversations about lines -/

/-- The lines of a conversation are divided into chunks in one way, each chunk the shortest run of
lines that leaves no bracket open when they are read together, with no line left out or used twice.
The shell answers the chunks in order and nothing else: lines that make no chunk are not run, and a
word of farewell ends the conversation only where a chunk would begin; no error ever does. Where a
chunk is run as a program, its tokens are those of its lines, and every complaint names the line of
the chunk, counted from one, that has the token which it is about. -/
theorem shell_answers_chunks (files : Files) (path : String) (verbose logging : Bool)
    (input : List String) (inLine : ∀ line ∈ input, '\n' ∉ line.toList) :
    ∃ opening chunks rest,
      Shell.begin files path verbose logging = .ok opening ∧ Divides input chunks rest ∧
      (∀ others left, Divides input others left → others = chunks ∧ left = rest) ∧
      Shell.run files path verbose logging input =
        (opening.output ++ (opening.shell.answers chunks ++ Shell.parting rest), .ok ()) ∧
      ∀ chunk ∈ chunks, ∀ text, Wish.ofText (strip (lines chunk)) = .program text →
        tokenTexts text = chunk.flatMap tokenTexts ∧
        ∀ keywords, ∀ error ∈ (readProgram keywords text).errors, ∃ i line t,
          chunk[i]? = some line ∧ t ∈ tokens line ∧ error.line = some (Int.ofNat i + 1) ∧
            error.cause.Concerns keywords t := by
  obtain ⟨opening, begun, between, calm⟩ := Shell.begin_calm files path verbose logging
  obtain ⟨chunks, rest, divides⟩ := exists_division input
  refine ⟨opening, chunks, rest, begun, divides, fun others left => divides.unique, ?_, ?_⟩
  · simp only [Shell.run, begun, Shell.converse_divides between calm divides]
  · intro chunk member text wish
    have each : ∀ line ∈ chunk, '\n' ∉ line.toList := by
      intro line among
      apply inLine
      rw [divides.joined]
      exact List.mem_append_left _ (List.mem_flatten.mpr ⟨chunk, member, among⟩)
    have margin := (divides.chunk chunk member).margin each
    have own : text = strip (lines chunk) := Wish.ofText_program wish
    subst own
    refine ⟨?_, fun keywords error => complaint_names_line each margin⟩
    rw [tokenTexts_strip margin, tokenTexts_lines]

/-- A disk without files. -/
def emptyDisk : Files := fun path => .error (.missing path)

/-- A repetition over three lines with a word of farewell in it, another one after it, and a line
that nobody reads. -/
theorem shell_answers_three_lines :
    ∃ opening, Shell.begin emptyDisk "" false false = .ok opening ∧
      Shell.run emptyDisk "" false false ["repeat 2 [", "exit # ]", " ]]", "Quit ", "fd 10"] =
        (opening.output ++ (opening.shell.answers [["repeat 2 [", "exit # ]", " ]]"]] ++
          Shell.parting ["Quit ", "fd 10"]), .ok ()) := by
  have divided : Divides ["repeat 2 [", "exit # ]", " ]]", "Quit ", "fd 10"]
      [["repeat 2 [", "exit # ]", " ]]"]] ["Quit ", "fd 10"] :=
    ⟨rfl, by decide +kernel, by decide +kernel, .inl (by decide +kernel)⟩
  obtain ⟨opening, chunks, rest, begun, -, only, ran, -⟩ :=
    shell_answers_chunks emptyDisk "" false false _
      (by decide : ∀ line ∈ ["repeat 2 [", "exit # ]", " ]]", "Quit ", "fd 10"], '\n' ∉ line.toList)
  obtain ⟨rfl, rfl⟩ := only _ _ divided
  exact ⟨opening, begun, ran⟩

end TurtleScript
