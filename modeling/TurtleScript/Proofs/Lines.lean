import TurtleScript.Proofs.Likeness

/-!
Texts one under the other. A line break ends every word and every comment, so the tokens of the
upper text stay what they are and those of the lower one are the same on lower lines. No complete
program waits for a word after it; so the two texts are read to the commands of both, and those of
the lower text move down with their words, at every depth.
-/
namespace TurtleScript

open Text

/-! ## Tokens above a line break -/

private theorem head?_before_line {cs : List Char} {holds : Char → Prop}
    (first : ∀ c ∈ cs.head?, holds c) (newline : holds '\n') (more : List Char) :
    ∀ c ∈ (cs ++ '\n' :: more).head?, holds c := by
  cases cs with
  | nil => rintro c ⟨⟩; exact newline
  | cons d rest => exact first

/-- A gap stays one where another line is put under the text: that line ends an open comment. -/
private theorem Gap.before_line {after gap : List Char} (skipped : Gap after gap)
    (more : List Char) : Gap (after ++ '\n' :: more) gap := by
  induction skipped with
  | none => exact .none
  | blank blank _ ih => exact .blank blank ih
  | comment marked inLine ends _ ih =>
    refine .comment marked inLine ?_ ih
    rw [← List.append_assoc]
    exact head?_before_line ends rfl more

private theorem Gap.append {after first second : List Char} (skipped : Gap (second ++ after) first)
    (next : Gap after second) : Gap after (first ++ second) := by
  induction skipped with
  | none => exact next
  | blank blank _ ih => exact .blank blank ih
  | comment marked inLine ends _ ih =>
    rw [List.cons_append, List.append_assoc]
    exact .comment marked inLine (by rwa [List.append_assoc]) ih

private theorem Spelling.before_line {rest word : List Char} {shape : Shape}
    (spelled : Spelling rest word shape) (more : List Char) :
    Spelling (rest ++ '\n' :: more) word shape := by
  cases spelled with
  | opening => exact .opening
  | closing => exact .closing
  | word nonempty unbroken maximal =>
    exact .word nonempty unbroken (head?_before_line maximal (by decide) more)

/-- What belongs to a gap wherever it stands is passed over before the next token is read. -/
private theorem nextLexeme_past {cs : List Char} (passed : ∀ after, Gap after cs) (place : Place)
    (more : List Char) : nextLexeme place (cs ++ more) = nextLexeme (place.over cs) more := by
  have reads := nextLexeme_reads (place.over cs) more
  generalize nextLexeme (place.over cs) more = lexeme at reads
  apply Reads.nextLexeme
  cases reads with
  | ends below =>
    rw [← over_append]
    exact .ends ((passed _).append below)
  | @token gap word rest shape split below spelled =>
    rw [← over_append]
    exact .token (by simp [split]) ((passed _).append below) spelled

/-- The end of a text and the line break after it belong to a gap wherever they stand. -/
private theorem Gap.ended {cs : List Char} (skipped : Gap [] cs) (after : List Char) :
    Gap after (cs ++ ['\n']) := by
  have above : Gap (['\n'] ++ after) cs := skipped.before_line after
  have line : Gap after ['\n'] := .blank (by decide) .none
  exact above.append line

private theorem lexFrom_congr {place other : Place} {cs others : List Char}
    (same : nextLexeme place cs = nextLexeme other others) :
    lexFrom place cs = lexFrom other others := by
  by_cases last : (nextLexeme other others).token.shape = .ending
  · rw [lexFrom_of_ending same last, lexFrom_of_ending rfl last]
  · rw [lexFrom_of_token same last, lexFrom_of_token rfl last]

theorem lexFrom_past {cs : List Char} (passed : ∀ after, Gap after cs) (place : Place)
    (more : List Char) : lexFrom place (cs ++ more) = lexFrom (place.over cs) more :=
  lexFrom_congr (nextLexeme_past passed place more)

/-- Reading a text and then the lines below it. The induction is on the text above, which every
token shortens. -/
private theorem lexFrom_below (place : Place) (cs more : List Char) :
    lexFrom place (cs ++ '\n' :: more) =
      ((lexFrom place cs).1 ++ (lexFrom (place.over (cs ++ ['\n'])) more).1,
        (lexFrom (place.over (cs ++ ['\n'])) more).2) := by
  generalize next : nextLexeme place cs = lexeme
  have reads := nextLexeme_reads place cs
  rw [next] at reads
  cases reads with
  | ends skipped =>
    have below := lexFrom_past skipped.ended place more
    rw [List.append_assoc] at below
    rw [lexFrom_of_ending next rfl]
    exact below
  | @token gap word rest shape split skipped spelled =>
    have shorter : rest.length < cs.length := by
      have nonempty := spelled.nonempty
      simp only [split, List.length_append]
      omega
    have longer : cs ++ '\n' :: more = gap ++ (word ++ (rest ++ '\n' :: more)) := by simp [split]
    have skippedToo := skipped.before_line more
    rw [List.append_assoc] at skippedToo
    have readsToo : Reads place (cs ++ '\n' :: more) _ :=
      .token longer skippedToo (spelled.before_line more)
    have passed : ((place.over gap).over word).over (rest ++ ['\n']) =
        place.over (cs ++ ['\n']) := by
      rw [← over_append, ← over_append, split]
      simp
    rw [lexFrom_of_token readsToo.nextLexeme spelled.shape_ne_ending,
      lexFrom_of_token next spelled.shape_ne_ending, lexFrom_below _ rest more, passed]
    rfl
termination_by cs.length

/-! ## Moved texts -/

def Token.move (move : Place → Place) (t : Token) : Token :=
  { t with line := (move ⟨t.line, t.column⟩).line, column := (move ⟨t.line, t.column⟩).column }

section Moved

variable {move : Place → Place} (inside : Place → Prop)
  (steps : ∀ place c, inside place → inside (place.step c) ∧
    (move place).step c = move (place.step c))

include steps

private theorem over_move {place : Place} (starts : inside place) (cs : List Char) :
    inside (place.over cs) ∧ (move place).over cs = move (place.over cs) := by
  induction cs generalizing place with
  | nil => exact ⟨starts, rfl⟩
  | cons c rest ih =>
    obtain ⟨goes, same⟩ := steps place c starts
    simp only [Place.over, List.foldl_cons] at ih ⊢
    rw [same]
    exact ih goes

/-- A text that is read from another place has its tokens at other places, if the places move along
with every character. -/
theorem lexFrom_move {place : Place} (starts : inside place) (cs : List Char) :
    (lexFrom (move place) cs).1 = (lexFrom place cs).1.map (Token.move move) := by
  generalize next : nextLexeme place cs = lexeme
  have reads := nextLexeme_reads place cs
  rw [next] at reads
  cases reads with
  | ends skipped =>
    have readsToo : Reads (move place) cs _ := .ends skipped
    rw [lexFrom_of_ending readsToo.nextLexeme rfl, lexFrom_of_ending next rfl]
    rfl
  | @token gap word rest shape split skipped spelled =>
    have shorter : rest.length < cs.length := by
      have nonempty := spelled.nonempty
      simp only [split, List.length_append]
      omega
    have readsToo : Reads (move place) cs _ := .token split skipped spelled
    obtain ⟨atWord, toWord⟩ := over_move inside steps starts gap
    obtain ⟨afterWord, pastWord⟩ := over_move inside steps atWord word
    rw [lexFrom_of_token readsToo.nextLexeme spelled.shape_ne_ending,
      lexFrom_of_token next spelled.shape_ne_ending]
    simp only [toWord, pastWord, List.map_cons, lexFrom_move afterWord rest]
    rfl
termination_by cs.length

end Moved

/-! ## Lower lines -/

/-- A place so many lines further down. -/
def Place.down (lines : Int) (place : Place) : Place := ⟨place.line + lines, place.column⟩

def Token.down (lines : Int) (t : Token) : Token := { t with line := t.line + lines }

private theorem step_down (lines : Int) (place : Place) (c : Char) :
    (place.down lines).step c = (place.step c).down lines := by
  by_cases newline : c = '\n'
  · simp only [Place.step, newline, if_true, Place.down]
    rw [Int.add_right_comm]
  · simp only [Place.step, newline, if_false, Place.down]

private theorem lexFrom_down (lines : Int) (place : Place) (cs : List Char) :
    (lexFrom (place.down lines) cs).1 = (lexFrom place cs).1.map (Token.down lines) :=
  lexFrom_move (fun _ => True) (fun place c _ => ⟨trivial, step_down lines place c⟩) trivial cs

/-- How far down a text stands that is put under another one. -/
def linesAbove (above : String) : Int := 1 + Int.ofNat (above.toList.count '\n')

private theorem linesAbove_nonneg (above : String) : 0 ≤ linesAbove above :=
  Int.add_nonneg Int.one_nonneg (Int.natCast_nonneg _)

theorem tokens_under (above below : String) :
    tokens (above ++ "\n" ++ below) =
      tokens above ++ (tokens below).map (Token.down (linesAbove above)) := by
  have chars : (above ++ "\n" ++ below).toList = above.toList ++ '\n' :: below.toList := by
    simp
  have passed : Place.start.over (above.toList ++ ['\n']) =
      Place.start.down (linesAbove above) := by
    rw [over_append]
    show Place.mk ((Place.start.over above.toList).line + 1) 1 = _
    rw [over_line, Int.add_assoc, Int.add_comm _ 1]
    rfl
  rw [tokens, chars, lexFrom_below, passed, lexFrom_down]
  rfl

/-! ## Programs under each other -/

namespace Phrase

private theorem tokensAll_append (first second : List Phrase) :
    tokensAll (first ++ second) = tokensAll first ++ tokensAll second := by
  induction first with
  | nil => rfl
  | cons phrase rest ih => simp [tokensAll, ih]

private theorem commands_append (first second : List Phrase) :
    commands (first ++ second) = commands first ++ commands second := by
  induction first with
  | nil => rfl
  | cons phrase rest ih => simp [commands, ih]

private theorem FitAll.append {keywords : Keywords} {first second : List Phrase}
    (fits : FitAll keywords first) (next : FitAll keywords second) :
    FitAll keywords (first ++ second) := by
  induction first with
  | nil => exact next
  | cons phrase rest ih => exact ⟨fits.1, ih fits.2⟩

end Phrase

variable {keywords : Keywords}

/-- No word of a program needs the one after it once the program is complete: the reader reads two
lists of tokens in a row to the commands of both. -/
theorem readTokens_append {first second : List Token} (unended : ∀ t ∈ first, t.shape ≠ .ending)
    (unendedNext : ∀ t ∈ second, t.shape ≠ .ending)
    (clean : (readTokens keywords first).errors = [])
    (cleanNext : (readTokens keywords second).errors = []) :
    readTokens keywords (first ++ second) =
      ⟨(readTokens keywords first).commands ++ (readTokens keywords second).commands, []⟩ := by
  obtain ⟨phrases, derived⟩ := derives_of_clean unended clean
  obtain ⟨others, derivedNext⟩ := derives_of_clean unendedNext cleanNext
  have both : Phrase.Derives keywords (phrases ++ others) (first ++ second) :=
    ⟨derived.fits.append derivedNext.fits,
      by rw [Phrase.tokensAll_append, derived.spelled, derivedNext.spelled]⟩
  rw [both.readTokens, derived.readTokens, derivedNext.readTokens, Phrase.commands_append]

def Relocation.down (lines : Int) : Relocation := ⟨Place.down lines, Option.map (· + lines)⟩

/-- A text that stands lower is read to the same program, lower. -/
theorem readTokens_down {lines : Int} (down : 0 ≤ lines) (text : String) :
    readTokens keywords ((tokens text).map (Token.down lines)) =
      (readProgram keywords text).relocate (.down lines) := by
  refine readTokens_alike (List.forall₂_map_right_iff.mpr (List.forall₂_same.mpr ?_))
  intro t member
  obtain ⟨piece, spelled, rfl⟩ := spelled_of_mem_tokens member
  have inText : 1 ≤ piece.token.line := by
    rw [spelled.line]
    exact Int.le_add_of_nonneg_right (Int.natCast_nonneg _)
  have known : piece.token.line ≠ 0 := by omega
  have knownLower : piece.token.line + lines ≠ 0 := by omega
  refine ⟨⟨rfl, rfl, rfl⟩, .inl rfl, rfl, ?_⟩
  simp [Token.knownLine, Token.down, Relocation.down, known, knownLower]

theorem readProgram_under {above below : String}
    (clean : (readProgram keywords above).errors = [])
    (cleanBelow : (readProgram keywords below).errors = []) :
    readProgram keywords (above ++ "\n" ++ below) =
      ⟨(readProgram keywords above).commands ++
        Command.relocateAll (Place.down (linesAbove above)) (readProgram keywords below).commands,
        []⟩ := by
  have lower : readTokens keywords ((tokens below).map (Token.down (linesAbove above))) = _ :=
    readTokens_down (linesAbove_nonneg above) below
  have unended : ∀ t ∈ (tokens below).map (Token.down (linesAbove above)), t.shape ≠ .ending := by
    intro t member
    obtain ⟨t, among, rfl⟩ := List.mem_map.mp member
    exact tokens_unended t among
  have cleanLower : (readTokens keywords
      ((tokens below).map (Token.down (linesAbove above)))).errors = [] := by
    rw [lower, Program.relocate, cleanBelow]
    rfl
  have read := readTokens_append tokens_unended unended clean cleanLower
  rw [lower] at read
  rw [readProgram, tokens_under]
  exact read

end TurtleScript
