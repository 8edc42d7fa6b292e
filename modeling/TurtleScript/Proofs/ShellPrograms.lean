import TurtleScript.Proofs.Conversation

/-!
Programs that are entered into the shell. The shell looks at the text of a chunk before anything
is read, and takes it for one of its own commands or for a program. A program that is no such
command is run on the engine and touches nothing else of the shell, unless its text begins with the
letters of the alias command: then it is taken for that command even where its first word goes on,
and is not run at all.
-/
namespace TurtleScript

open Text

/-! ## Shells -/

/-- A shell that lines were fed to, and whose aliases were extended. -/
inductive Shell.Reached : Shell → Prop
  | opened {files : Files} {path : String} {verbose logging : Bool} {opening : Turn}
    (begun : Shell.begin files path verbose logging = .ok opening) : Reached opening.shell
  | fed {s : Shell} {line : String} {turn : Turn} (before : Reached s)
    (fed : s.feed line = some turn) (goesOn : turn.escaped = none) : Reached turn.shell
  | configured {s : Shell} {config : AliasConfig} {aliases : AliasTable} (before : Reached s)
    (accepted : s.aliases.configure config = .ok aliases) : Reached { s with aliases }

/-- Whatever was entered before, the engine of a shell is calm. -/
theorem Shell.Reached.calm {s : Shell} (reached : s.Reached) : s.engine.Calm := by
  induction reached with
  | @opened files path verbose logging opening begun =>
    obtain ⟨other, begunToo, -, calm⟩ := Shell.begin_calm files path verbose logging
    rw [Except.ok.inj (begun.symm.trans begunToo)]
    exact calm
  | @fed s line turn _ fed _ calm =>
    unfold Shell.feed at fed
    dsimp only at fed
    split at fed
    · cases fed
    · split at fed
      · rw [← Option.some.inj fed]
        exact (Shell.fulfil_fulfils (s := { s with chunk := .empty }) calm _).calm
      · rw [← Option.some.inj fed]
        exact calm
  | configured _ _ calm => exact calm

/-! ## Commands of the shell -/

/-- The characters of a text before its first blank. -/
def firstWord (text : String) : String :=
  String.ofList (text.toList.takeWhile fun c => !isBlank c)

/-- A text is a command of the shell: it is one of the words that stand alone, or its first word is
that of the samples or of the aliases. -/
def ShellCommand (text : String) : Prop :=
  lower text ∈ ["exit", "quit", "state", "reset", "samples", "verbose-mode"] ∨
    firstWord (lower text) = "sample" ∨ upper (firstWord text) = sugarWord

instance : DecidablePred ShellCommand := fun text =>
  inferInstanceAs (Decidable (lower text ∈ _ ∨ _))

theorem firstWord_of_startsWith {text word : String}
    (unblank : ∀ c ∈ word.toList, isBlank c = false)
    (starts : text.startsWith (word ++ " ") = true) : firstWord text = word := by
  obtain ⟨rest, split⟩ := String.startsWith_string_iff.mp starts
  have first : text.toList.takeWhile (fun c => !isBlank c) = word.toList := by
    rw [← split, String.toList_append, List.append_assoc,
      List.takeWhile_append_of_pos (by simpa using unblank)]
    simp [isBlank]
  rw [firstWord, first, String.ofList_toList]

/-! ## Words of farewell -/

/-- A bracket among the tokens of a text is one of its characters. -/
private theorem bracket_of_mem_tokenTexts {text : String} (member : "[" ∈ tokenTexts text) :
    '[' ∈ text.toList := by
  obtain ⟨t, among, bracket⟩ := List.mem_map.mp member
  obtain ⟨piece, spelled, rfl⟩ := spelled_of_mem_tokens among
  have chars : upperChars (piece.chars text.toList) = ['['] := by
    have same := congrArg String.toList (spelled.text.symm.trans bracket)
    simpa [upper] using same
  have within : ∀ c ∈ piece.chars text.toList, c ∈ text.toList := by
    intro c inside
    rw [Piece.chars, List.extract_eq_take_drop] at inside
    exact List.mem_of_mem_drop (List.mem_of_mem_take inside)
  by_cases opening : piece.chars text.toList = ['[']
  · exact within '[' (by simp [opening])
  · by_cases closing : piece.chars text.toList = [']']
    · rw [closing] at chars
      exact absurd chars (by decide)
    · obtain ⟨-, unbroken, -⟩ := spelled.word opening closing
      have broken : endsWord '[' = false :=
        upperChars_unbroken_iff.mpr unbroken '[' (by simp [chars])
      exact absurd broken (by decide)

/-- A bracket has no other case. -/
private theorem bracket_mem_lower {text : String} (member : '[' ∈ text.toList) :
    '[' ∈ (lower text).toList := by
  have kept : ∀ before cs, '[' ∈ cs → '[' ∈ lowerAfter before cs := by
    intro before cs
    induction cs generalizing before with
    | nil => exact nofun
    | cons c rest ih =>
      intro member
      rw [lowerAfter, List.mem_append]
      rcases List.mem_cons.mp member with rfl | later
      · exact .inl (by simp [lowerChar])
      · exact .inr (ih _ later)
  simpa [lower] using kept [] text.toList member

private theorem word_of_isFarewell {line : String} (farewell : isFarewell line = true) :
    lower (strip line) = "exit" ∨ lower (strip line) = "quit" := by
  simpa [isFarewell] using farewell

/-- A word of farewell is a chunk by itself. -/
private theorem IsChunk.of_leaves {chunk : List String} (isChunk : IsChunk chunk)
    (inLine : ∀ line ∈ chunk, '\n' ∉ line.toList) (left : leaves chunk = true) :
    ∃ line, chunk = [line] ∧ isFarewell line = true := by
  obtain ⟨line, rest, rfl⟩ := List.exists_cons_of_ne_nil isChunk.nonempty
  have farewell : isFarewell line = true := by simpa [leaves] using left
  have none : '[' ∉ (strip line).toList := by
    intro member
    have bracket := bracket_mem_lower member
    rcases word_of_isFarewell farewell with exit | quit
    · rw [exit] at bracket
      revert bracket
      decide
    · rw [quit] at bracket
      revert bracket
      decide
  have margin : '\n' ∉ indentation line := fun member =>
    inLine line (by simp) (List.takeWhile_subset _ member)
  have closed : Closed [line] := by
    have zero : (tokenTexts line).count "[" = 0 := by
      rw [← tokenTexts_strip margin, List.count_eq_zero]
      exact fun member => none (bracket_of_mem_tokenTexts member)
    simp [Closed, lines, zero]
  exact ⟨line, (isChunk.shortest [line] ⟨rest, rfl⟩ (by simp) closed).symm, farewell⟩

private theorem not_leaves_of_plain {chunk : List String} (isChunk : IsChunk chunk)
    (inLine : ∀ line ∈ chunk, '\n' ∉ line.toList)
    (plain : ¬ ShellCommand (strip (lines chunk))) : leaves chunk = false := by
  rw [← Bool.not_eq_true]
  intro left
  obtain ⟨line, rfl, farewell⟩ := isChunk.of_leaves inLine left
  apply plain
  refine .inl ?_
  rcases word_of_isFarewell farewell with exit | quit
  · simp [lines, exit]
  · simp [lines, quit]

/-! ## Programs -/

/-- A text that is no command of the shell is a program, unless it begins like the alias command. -/
private theorem Wish.ofText_plain {text : String} (filled : text ≠ "")
    (plain : ¬ ShellCommand text) :
    ((upper text).startsWith sugarWord = true →
      Wish.ofText text = .listAliases ∨ ∃ json, Wish.ofText text = .addAliases json) ∧
    ((upper text).startsWith sugarWord = false → Wish.ofText text = .program text) := by
  simp only [ShellCommand, List.mem_cons, List.not_mem_nil, or_false, not_or] at plain
  obtain ⟨⟨-, -, state, reset, samples, verbose⟩, sample, -⟩ := plain
  have noSample : (lower text).startsWith "sample " = false := by
    rw [← Bool.not_eq_true]
    intro starts
    have first : firstWord (lower text) = "sample" :=
      firstWord_of_startsWith (by simp [isBlank]) starts
    exact sample first
  unfold Wish.ofText
  simp only [String.isEmpty_eq_false_iff.mpr filled, verbose, state, reset, samples, noSample,
    Bool.false_eq_true, if_false]
  constructor
  · intro like
    rw [if_pos like]
    split
    · exact .inl rfl
    · exact .inr ⟨_, rfl⟩
  · intro unlike
    simp only [unlike, Bool.false_eq_true, if_false]

/-- Nothing is read from an empty text. -/
private theorem filled_of_commands (keywords : Keywords) (text : String)
    (filled : (readProgram keywords text).commands ≠ []) : text ≠ "" := by
  rintro rfl
  have none : tokens "" = [] := by decide +kernel
  have ended : (TokenStream.ofList []).atEnd = true := by decide
  apply filled
  rw [readProgram, none]
  change commandsOf (readSteps keywords (.ofList [])) = []
  rw [readSteps, dif_pos ended]
  rfl

namespace Shell

variable {s : Shell}

/-- The alias command does not reach the engine. -/
private theorem configure_engine (s : Shell) (json : String) :
    (s.configure json).shell.engine = s.engine := by
  unfold configure
  split <;> rfl

/-- A program that is run changes the engine and nothing else of the shell. -/
private theorem runSource_shell (calm : s.engine.Calm) {text : String}
    (clean : (readProgram s.aliases.words text).errors = []) :
    (s.runSource text).shell =
      { s with engine := (s.engine.execute (readProgram s.aliases.words text).commands []).2 } := by
  obtain ⟨-, success, returned⟩ := calm.execute s.aliases.words text
  have accepted : (readProgram s.aliases.words text).ok = true := by simp [Program.ok, clean]
  obtain ⟨tree, shown⟩ := s.treeOutput_read s.aliases.words text
  simp only [runSource, accepted, if_true, shown, runCommands, returned]
  rfl

/-- What becomes of a shell by a text that is no command of it. -/
private theorem fulfil_plain (calm : s.engine.Calm) {text : String}
    (clean : (readProgram s.aliases.words text).errors = [])
    (filled : (readProgram s.aliases.words text).commands ≠ []) (plain : ¬ ShellCommand text) :
    ((upper text).startsWith sugarWord = true →
      (s.fulfil (.ofText text)).shell.engine = s.engine) ∧
    ((upper text).startsWith sugarWord = false → (s.fulfil (.ofText text)).shell =
      { s with
        engine := (s.engine.execute (readProgram s.aliases.words text).commands []).2 }) := by
  obtain ⟨aliases, program⟩ :=
    Wish.ofText_plain (filled_of_commands s.aliases.words text filled) plain
  constructor
  · intro like
    rcases aliases like with list | ⟨json, add⟩
    · rw [list]
      rfl
    · rw [add]
      exact s.configure_engine json
  · intro unlike
    rw [program unlike]
    exact runSource_shell calm clean

end Shell

/-- A shell runs every program that is no command of its own and does not begin like one. A chunk
that is read without a complaint, with its margins or without, and gives some commands is run on
the engine of the shell, whatever was entered before and however the aliases were extended: exactly
these commands are executed, and the aliases and everything else of the shell stay as they are. But
a chunk whose text begins with the letters of the alias command is taken for it although its first
word is another one, and then none of its commands is executed. -/
theorem shell_runs_programs (s : Shell) (reached : s.Reached) (between : s.chunk = .empty)
    (chunk : List String) (isChunk : IsChunk chunk)
    (inLine : ∀ line ∈ chunk, '\n' ∉ line.toList)
    (clean : (readProgram s.aliases.words (lines chunk)).errors = [])
    (filled : (readProgram s.aliases.words (lines chunk)).commands ≠ [])
    (plain : ¬ ShellCommand (strip (lines chunk))) :
    let text := strip (lines chunk)
    let program := readProgram s.aliases.words text
    readProgram s.aliases.words (lines chunk) =
        program.relocate (.indent (indentation (lines chunk)).length) ∧
      ∃ said after, s.feedAll chunk = some (said, after) ∧
        ((upper text).startsWith sugarWord = true → after.engine = s.engine) ∧
        ((upper text).startsWith sugarWord = false →
          after = { s with engine := (s.engine.execute program.commands []).2 }) := by
  have same := readProgram_strip s.aliases.words (isChunk.margin inLine)
  have goesOn := (Shell.fulfil_fulfils reached.calm (.ofText (strip (lines chunk)))).goesOn
  have fed := Shell.feedAll_chunk between isChunk (not_leaves_of_plain isChunk inLine plain) goesOn
  rw [same] at clean filled
  have cleanText : (readProgram s.aliases.words (strip (lines chunk))).errors = [] :=
    List.map_eq_nil_iff.mp clean
  have filledText : (readProgram s.aliases.words (strip (lines chunk))).commands ≠ [] := by
    intro none
    apply filled
    rw [Program.relocate, none]
    rfl
  exact ⟨same, _, _, fed, Shell.fulfil_plain reached.calm cleanText filledText plain⟩

private def freshShell : Shell :=
  ⟨{ Engine.placed ⟨400.0, 300.0, 0.0⟩ with speed := 10 }, .standard, false, false, .empty⟩

private theorem freshShell_reached : freshShell.Reached := by
  have begun : ∃ opening, Shell.begin emptyDisk "" false false = .ok opening ∧
      opening.shell = freshShell := ⟨_, rfl, rfl⟩
  obtain ⟨opening, begun, same⟩ := begun
  rw [← same]
  exact .opened begun

/-- An indented repetition over two lines is run by a new shell. -/
theorem shell_runs_indented_repetition :
    IsChunk ["  repeat 2 [pu", "lt 90] "] ∧ ∃ said after,
      freshShell.feedAll ["  repeat 2 [pu", "lt 90] "] = some (said, after) ∧
        after = { freshShell with
          engine := (freshShell.engine.execute (readProgram freshShell.aliases.words
            (strip (lines ["  repeat 2 [pu", "lt 90] "]))).commands []).2 } := by
  have isChunk : IsChunk ["  repeat 2 [pu", "lt 90] "] := by decide +kernel
  have filled : (readProgram freshShell.aliases.words
      (lines ["  repeat 2 [pu", "lt 90] "])).commands.isEmpty = false := by decide +kernel
  obtain ⟨-, said, after, fed, -, runs⟩ :=
    shell_runs_programs freshShell freshShell_reached rfl _ isChunk (by decide) (by decide +kernel)
      (by simpa using filled) (by decide +kernel)
  exact ⟨isChunk, said, after, fed, runs (by decide +kernel)⟩

/-- A new word for lifting the pen, which begins like the alias command: the program that consists
of it would lift the pen, and the shell leaves the pen where it is. -/
theorem sugary_program_not_run :
    ∃ s : Shell, s.Reached ∧ s.chunk = .empty ∧ IsChunk ["sugary"] ∧
      (readProgram s.aliases.words (lines ["sugary"])).errors = [] ∧
      (readProgram s.aliases.words (lines ["sugary"])).commands ≠ [] ∧
      ¬ ShellCommand (strip (lines ["sugary"])) ∧
      (s.engine.execute (readProgram s.aliases.words
        (lines ["sugary"])).commands []).2.turtle.penDown = false ∧
      ∃ said after, s.feedAll ["sugary"] = some (said, after) ∧
        after.engine.turtle.penDown = true := by
  let config : AliasConfig := .named [(.word "sugary", .text "PENUP")]
  have checked : (AliasTable.standard.configure config).toOption.map (fun new : AliasTable =>
      ((readProgram new.words (lines ["sugary"])).errors.isEmpty,
        (readProgram new.words (lines ["sugary"])).commands.isEmpty,
        (freshShell.engine.execute (readProgram new.words (lines ["sugary"])).commands
          []).2.turtle.penDown,
        ({ freshShell with aliases := new }.feedAll ["sugary"]).map
          fun fed : Output × Shell => fed.2.engine.turtle.penDown)) =
      some (true, false, false, some true) := by
    decide +kernel
  cases configured : AliasTable.standard.configure config with
  | error fault => simp [configured, Except.toOption] at checked
  | ok new =>
    simp only [configured, Except.toOption, Option.map_some, Option.some.injEq, Prod.mk.injEq,
      List.isEmpty_iff, Bool.eq_false_iff] at checked
    obtain ⟨clean, filled, lifts, fed⟩ := checked
    obtain ⟨⟨said, after⟩, fed, down⟩ := Option.map_eq_some_iff.mp fed
    exact ⟨{ freshShell with aliases := new }, .configured freshShell_reached configured, rfl,
      by decide +kernel, clean, by simpa using filled, by decide +kernel, by simpa using lifts,
      said, after, fed, down⟩

end TurtleScript
