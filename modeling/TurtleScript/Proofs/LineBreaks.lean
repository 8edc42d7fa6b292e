import Mathlib.Algebra.Ring.Int.Defs
import TurtleScript.Proofs.Lines
import TurtleScript.Text.Layout

/-!
Line breaks separate texts completely. Wherever a text stops, in a word, in a comment or between
tokens, a line break and a comment before it are all that is needed to put another text under it:
the tokens of both are what they were, and those of the lower text only stand on lower lines. So
what is counted token by token may as well be counted line by line.
-/
namespace TurtleScript

open Text

/-! ## The end of a text -/

/-- Characters that end every word and prolong every gap at the end of a text. -/
structure Trailing (tail : List Char) : Prop where
  apart : ∀ c ∈ tail.head?, endsWord c = true
  gap : ∀ {cs : List Char}, Gap [] cs → Gap [] (cs ++ tail)

private theorem Gap.before_more {after gap : List Char} (skipped : Gap after gap)
    (nonempty : after ≠ []) (more : List Char) : Gap (after ++ more) gap := by
  induction skipped with
  | none => exact .none
  | blank blank _ ih => exact .blank blank ih
  | @comment mark body gap marked inLine ends _ ih =>
    refine .comment marked inLine ?_ ih
    rwa [← List.append_assoc, List.head?_append_of_ne_nil _ (by simp [nonempty])]

private theorem Spelling.before_trailing {rest word tail : List Char} {shape : Shape}
    (spelled : Spelling rest word shape) (trailing : Trailing tail) :
    Spelling (rest ++ tail) word shape := by
  cases spelled with
  | opening => exact .opening
  | closing => exact .closing
  | word nonempty unbroken maximal =>
    refine .word nonempty unbroken ?_
    cases rest with
    | nil => exact trailing.apart
    | cons d others => exact maximal

/-- What trails a text adds no token to it. The induction is on the text, which every token
shortens. -/
theorem lexFrom_trailing (place : Place) (cs : List Char) {tail : List Char}
    (trailing : Trailing tail) : (lexFrom place (cs ++ tail)).1 = (lexFrom place cs).1 := by
  generalize next : nextLexeme place cs = lexeme
  have reads := nextLexeme_reads place cs
  rw [next] at reads
  cases reads with
  | ends skipped =>
    have readsToo : Reads place (cs ++ tail) _ := .ends (trailing.gap skipped)
    rw [lexFrom_of_ending readsToo.nextLexeme rfl, lexFrom_of_ending next rfl]
  | @token gap word rest shape split skipped spelled =>
    have shorter : rest.length < cs.length := by
      have nonempty := spelled.nonempty
      simp only [split, List.length_append]
      omega
    have longer : cs ++ tail = gap ++ (word ++ (rest ++ tail)) := by simp [split]
    have filled : word ++ rest ≠ [] := by
      simp [List.length_pos_iff.mp spelled.nonempty]
    have skippedToo := skipped.before_more filled tail
    rw [List.append_assoc] at skippedToo
    have readsToo : Reads place (cs ++ tail) _ :=
      .token longer skippedToo (spelled.before_trailing trailing)
    rw [lexFrom_of_token readsToo.nextLexeme spelled.shape_ne_ending,
      lexFrom_of_token next spelled.shape_ne_ending, lexFrom_trailing _ rest trailing]
termination_by cs.length

/-! ## Comments at the end of a text -/

/-- Nothing, or a comment that does not go on in another line. -/
structure Remark (text : String) : Prop where
  marked : text = "" ∨ text.toList.head? = some '#' ∨ text.toList.head? = some ';'
  inLine : '\n' ∉ text.toList

/-- The characters of a remark. -/
private structure Remarked (cs : List Char) : Prop where
  marked : ∀ c ∈ cs.head?, isCommentMark c = true
  inLine : '\n' ∉ cs

private theorem Remark.chars {text : String} (remark : Remark text) : Remarked text.toList := by
  refine ⟨?_, remark.inLine⟩
  intro c first
  rcases remark.marked with rfl | hash | semicolon
  · cases first
  · cases hash.symm.trans first
    decide
  · cases semicolon.symm.trans first
    decide

private theorem Remarked.gap {cs : List Char} (remark : Remarked cs) : Gap [] cs := by
  cases cs with
  | nil => exact .none
  | cons mark body =>
    have inLine : '\n' ∉ body := fun member => remark.inLine (List.mem_cons_of_mem mark member)
    have comment : Gap [] (mark :: (body ++ [])) :=
      .comment (remark.marked mark rfl) inLine nofun .none
    rwa [List.append_nil] at comment

/-- A remark after the last gap belongs to it, also where it only makes a comment longer. -/
private theorem Gap.with_remark {cs remark : List Char} (skipped : Gap [] cs)
    (ending : Remarked remark) : Gap [] (cs ++ remark) := by
  induction skipped with
  | none => exact ending.gap
  | blank blank _ ih => exact .blank blank ih
  | @comment mark body gap marked inLine ends more ih =>
    cases gap with
    | nil =>
      have longer : '\n' ∉ body ++ remark := by simp [inLine, ending.inLine]
      have comment : Gap [] (mark :: (body ++ remark ++ [])) :=
        .comment marked longer nofun .none
      simpa using comment
    | cons c rest =>
      have comment : Gap [] (mark :: (body ++ (c :: rest ++ remark))) :=
        .comment marked inLine ends ih
      simpa using comment

private theorem Remarked.trailing {cs : List Char} (remark : Remarked cs) : Trailing cs where
  apart c first := by simp [endsWord, remark.marked c first]
  gap skipped := skipped.with_remark remark

theorem tokens_remark (text : String) {remark : String} (ending : Remark remark) :
    tokens (text ++ remark) = tokens text := by
  rw [tokens, String.toList_append]
  exact lexFrom_trailing .start text.toList ending.chars.trailing

private theorem linesAbove_remark (text : String) {remark : String} (ending : Remark remark) :
    linesAbove (text ++ remark) = linesAbove text := by
  have none : remark.toList.count '\n' = 0 := List.count_eq_zero.mpr ending.inLine
  rw [linesAbove, String.toList_append, List.count_append, none, Nat.add_zero]
  rfl

/-! ## Counting line by line -/

theorem tokenTexts_under (above below : String) :
    tokenTexts (above ++ "\n" ++ below) = tokenTexts above ++ tokenTexts below := by
  rw [tokenTexts, tokens_under, List.map_append, List.map_map]
  rfl

private theorem bracketDepth_under (above below : String) :
    bracketDepth (above ++ "\n" ++ below) = bracketDepth above + bracketDepth below := by
  simp only [bracketDepth, tokenTexts_under, List.count_append, Int.ofNat_eq_natCast]
  omega

theorem lines_cons_cons (first second : String) (rest : List String) :
    lines (first :: second :: rest) = first ++ "\n" ++ lines (second :: rest) :=
  String.intercalate_cons_cons

theorem bracketDepth_lines (parts : List String) :
    bracketDepth (lines parts) = (parts.map bracketDepth).sum := by
  induction parts with
  | nil => decide +kernel
  | cons first rest ih =>
    cases rest with
    | nil => simp [lines]
    | cons second others =>
      rw [lines_cons_cons, bracketDepth_under, ih]
      exact List.sum_cons.symm

/-! ## Texts under each other -/

/-- A line break separates the tokens of two texts, whatever the first one ends with and whatever
remark stands before the break: the tokens of the first text are not changed at all, and those of
the second one keep their columns and are lower by the lines of the first. So the brackets of lines
may be counted one line at a time or all at once. -/
theorem line_break_separates :
    (∀ above remark below : String, Remark remark →
      tokens (above ++ remark ++ "\n" ++ below) =
        tokens above ++ (tokens below).map fun t =>
          { t with line := t.line + (1 + Int.ofNat (above.toList.count '\n')) }) ∧
    ∀ parts : List String, (parts.map bracketDepth).sum = bracketDepth (lines parts) := by
  refine ⟨?_, fun parts => (bracketDepth_lines parts).symm⟩
  intro above remark below ending
  rw [tokens_under, tokens_remark above ending, linesAbove_remark above ending]
  rfl

/-- A word that a remark ends and a lower text with a comment of its own. -/
theorem line_break_separates_glued :
    Remark ";]" ∧ tokens "fd\nbk;]\n [#x" =
      tokens "fd\nbk" ++ (tokens " [#x").map fun t => { t with line := t.line + 2 } := by
  have remark : Remark ";]" := ⟨.inr (.inr rfl), by decide⟩
  exact ⟨remark, line_break_separates.1 "fd\nbk" ";]" " [#x" remark⟩

end TurtleScript
