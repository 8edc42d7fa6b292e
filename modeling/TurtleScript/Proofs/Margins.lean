import TurtleScript.Proofs.AliasSpelling
import TurtleScript.Proofs.Complaints
import TurtleScript.Proofs.LineBreaks

/-!
The margins of a text. Blanks before and after a text have no part in its tokens; cutting them off
moves the tokens of the first line to the left, and nothing else. The tokens of lines that were
joined are those of each line, one line after the other; so a complaint about the joined lines,
whether their margins were cut off or not, names the line that its word was entered in.
-/
namespace TurtleScript

open Text

/-! ## Blanks around a text -/

/-- Blanks after a text prolong its last gap, also from inside a comment, which may end in them. -/
theorem trailing_of_blanks {blanks : List Char} (blank : ∀ c ∈ blanks, isBlank c = true) :
    Trailing blanks where
  apart c first := by simp [endsWord, blank c (List.mem_of_mem_head? first)]
  gap skipped := by
    induction skipped with
    | none => exact gap_of_blanks blank
    | blank own _ ih => exact .blank own ih
    | @comment mark body gap marked inLine ends _ ih =>
      cases gap with
      | cons c rest =>
        have comment : Gap [] (mark :: (body ++ (c :: rest ++ blanks))) :=
          .comment marked inLine ends ih
        simpa using comment
      | nil =>
        have inside : '\n' ∉ body ++ blanks.takeWhile (· ≠ '\n') := by
          intro member
          rcases List.mem_append.mp member with own | more
          · exact inLine own
          · simpa using List.mem_takeWhile_imp more
        have stops : ∀ c ∈ (blanks.dropWhile (· ≠ '\n') ++ []).head?, c = '\n' := by
          intro c first
          rw [List.append_nil] at first
          have stop := List.head?_dropWhile_not (fun c : Char => decide (c ≠ '\n')) blanks
          rw [first] at stop
          simpa using stop
        have later : Gap [] (blanks.dropWhile (· ≠ '\n')) :=
          gap_of_blanks fun c member => blank c (List.dropWhile_subset _ member)
        have comment := Gap.comment marked inside stops later
        rw [List.append_assoc, List.takeWhile_append_dropWhile] at comment
        simpa using comment

/-- A place so many columns further to the right, if it is on the first line. -/
def Place.indent (columns : Int) (place : Place) : Place :=
  if place.line = 1 then ⟨1, place.column + columns⟩ else place

private theorem step_indent (columns : Int) (place : Place) (c : Char) (known : 1 ≤ place.line) :
    1 ≤ (place.step c).line ∧ (place.indent columns).step c = (place.step c).indent columns := by
  obtain ⟨line, column⟩ := place
  simp only at known
  by_cases newline : c = '\n'
  · have lower : line + 1 ≠ 1 := by omega
    refine ⟨by simp only [Place.step, newline, if_true]; omega, ?_⟩
    by_cases first : line = 1 <;> simp [Place.step, Place.indent, newline, first, lower]
  · refine ⟨by simpa [Place.step, newline] using known, ?_⟩
    by_cases first : line = 1
    · simp only [Place.step, Place.indent, newline, first, if_true, if_false]
      rw [Int.add_right_comm]
    · simp [Place.step, Place.indent, newline, first]

/-- How far a text is indented. -/
def indentation (text : String) : List Char := text.toList.takeWhile isBlank

/-- Stripping a text moves the tokens of its first line to the left, if that is where they are. -/
theorem tokens_strip {text : String} (inLine : '\n' ∉ indentation text) :
    tokens text =
      (tokens (strip text)).map (Token.move (Place.indent (indentation text).length)) := by
  obtain ⟨after, split, blank⟩ := strip_between_blanks text
  have before : ∀ rest, Gap rest (indentation text) := fun rest =>
    gap_of_blanks fun c member => List.mem_takeWhile_imp member
  have margin : Place.start.over (indentation text) =
      Place.start.indent (indentation text).length := by
    obtain ⟨-, column⟩ | ⟨front, line, cut, -, -⟩ := over_column .start (indentation text)
    · have line := over_line .start (indentation text)
      rw [List.count_eq_zero.mpr inLine] at line
      exact congrArg₂ Place.mk line column
    · exact absurd (by simp [cut]) inLine
  have read := lexFrom_past before .start ((strip text).toList ++ after)
  rw [tokens, split, show text.toList.takeWhile isBlank = indentation text from rfl, read,
    lexFrom_trailing _ _ (trailing_of_blanks blank), margin]
  exact lexFrom_move (fun place => 1 ≤ place.line) (step_indent _) (Int.le_refl 1) _

theorem tokenTexts_strip {text : String} (inLine : '\n' ∉ indentation text) :
    tokenTexts (strip text) = tokenTexts text := by
  rw [tokenTexts, tokenTexts, tokens_strip inLine, List.map_map]
  rfl

def Relocation.indent (columns : Int) : Relocation := ⟨Place.indent columns, id⟩

theorem indent_line (columns : Int) (place : Place) :
    (place.indent columns).line = place.line := by
  unfold Place.indent
  split
  · rename_i first
    exact first.symm
  · rfl

/-- A text is read as it is without its margins, further to the right. -/
theorem readProgram_strip (keywords : Keywords) {text : String}
    (inLine : '\n' ∉ indentation text) :
    readProgram keywords text =
      (readProgram keywords (strip text)).relocate (.indent (indentation text).length) := by
  rw [readProgram, tokens_strip inLine]
  refine readTokens_alike (List.forall₂_map_right_iff.mpr (List.forall₂_same.mpr ?_))
  intro t _
  refine ⟨⟨rfl, rfl, rfl⟩, .inl rfl, rfl, ?_⟩
  simp only [Token.knownLine, Token.move, indent_line, Relocation.indent, id]

/-! ## Joined lines -/

theorem tokenTexts_lines (parts : List String) :
    tokenTexts (lines parts) = parts.flatMap tokenTexts := by
  induction parts with
  | nil => decide +kernel
  | cons first rest ih =>
    cases rest with
    | nil => simp [lines]
    | cons second others =>
      rw [lines_cons_cons, tokenTexts_under, ih]
      exact List.flatMap_cons.symm

/-- Every token of joined lines is one of its line, so many lines further down. -/
theorem mem_tokens_lines {parts : List String} (each : ∀ part ∈ parts, '\n' ∉ part.toList)
    {t : Token} (member : t ∈ tokens (lines parts)) :
    ∃ (i : Nat) (part : String) (own : Token),
      parts[i]? = some part ∧ own ∈ tokens part ∧ t = own.down i := by
  induction parts generalizing t with
  | nil =>
    have none : tokens (lines []) = [] := by decide +kernel
    rw [none] at member
    cases member
  | cons first rest ih =>
    cases rest with
    | nil => exact ⟨0, first, t, rfl, by simpa [lines] using member, by simp [Token.down]⟩
    | cons second others =>
      have single : linesAbove first = 1 := by
        rw [linesAbove, List.count_eq_zero.mpr (each first (by simp))]
        rfl
      rw [lines_cons_cons, tokens_under, single] at member
      rcases List.mem_append.mp member with above | below
      · exact ⟨0, first, t, rfl, above, by simp [Token.down]⟩
      · obtain ⟨u, among, rfl⟩ := List.mem_map.mp below
        obtain ⟨i, part, own, there, inside, rfl⟩ :=
          ih (fun part member => each part (by simp [member])) among
        refine ⟨i + 1, part, own, there, inside, ?_⟩
        simp only [Token.down, Nat.cast_add, Nat.cast_one, Int.add_assoc]

theorem line_of_mem_tokens {text : String} (inLine : '\n' ∉ text.toList) {t : Token}
    (member : t ∈ tokens text) : t.line = 1 := by
  obtain ⟨piece, spelled, rfl⟩ := spelled_of_mem_tokens member
  have none : (text.toList.take piece.start).count '\n' = 0 :=
    List.count_eq_zero.mpr fun among => inLine (List.mem_of_mem_take among)
  rw [spelled.line, none]
  rfl

/-! ## Complaints about joined lines -/

/-- A reason for a complaint lies in what a token is, not in where it stands. -/
private theorem Cause.Concerns.move {keywords : Keywords} {t : Token} {cause : Cause}
    (concerns : cause.Concerns keywords t) (move : Place → Place) :
    cause.Concerns keywords (t.move move) := by
  cases cause <;> exact concerns

private theorem Cause.Concerns.up {keywords : Keywords} {t : Token} {cause : Cause} {lines : Int}
    (concerns : cause.Concerns keywords (t.down lines)) : cause.Concerns keywords t := by
  cases cause <;> exact concerns

/-- A complaint about joined lines without their margins names the line, counted from one, that has
the token which it is about. -/
theorem complaint_names_line {keywords : Keywords} {parts : List String}
    (each : ∀ part ∈ parts, '\n' ∉ part.toList) (inLine : '\n' ∉ indentation (lines parts))
    {d : Diagnostic} (member : d ∈ (readProgram keywords (strip (lines parts))).errors) :
    ∃ i part own, parts[i]? = some part ∧ own ∈ tokens part ∧ d.line = some (Int.ofNat i + 1) ∧
      d.cause.Concerns keywords own := by
  obtain ⟨t, among, concerns⟩ := exists_culprit member
  have moved := List.mem_map_of_mem
    (f := Token.move (Place.indent (indentation (lines parts)).length)) among
  rw [← tokens_strip inLine] at moved
  obtain ⟨i, part, own, there, inside, same⟩ := mem_tokens_lines each moved
  have about := concerns.cause.move (Place.indent (indentation (lines parts)).length)
  rw [same] at about
  have line : t.line = own.line + i := by
    have lines := congrArg Token.line same
    rwa [Token.move, indent_line] at lines
  have first := line_of_mem_tokens (each part (List.mem_of_getElem? there)) inside
  refine ⟨i, part, own, there, inside, ?_, about.up⟩
  rw [concerns.line, knownLine_of_mem_tokens among, line, first, Int.add_comm]
  rfl

end TurtleScript
