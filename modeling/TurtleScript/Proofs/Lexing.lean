import TurtleScript.Language.Cursor

/-!
Reading a text as tokens loses nothing. A text is cut into pieces, each of them a bracket or a word
that could not be longer, with only blanks and comments between them, and every token is at the line
and column of its first character. These laws say what the tokens of a text are without saying how
they are found: the pieces that they allow are the ones that the reader takes, one token after the
other, until it is at the end of the text.
-/
namespace TurtleScript

open Text

/-! ## Gaps -/

/-- Blanks and comments before the text `after`. A comment runs up to the end of its line, or of the
whole text where no line follows. -/
inductive Gap (after : List Char) : List Char → Prop
  | none : Gap after []
  | blank {c : Char} {gap : List Char} (blank : isBlank c = true) (more : Gap after gap) :
    Gap after (c :: gap)
  | comment {mark : Char} {body gap : List Char} (marked : isCommentMark mark = true)
    (inLine : '\n' ∉ body) (ends : ∀ c ∈ (gap ++ after).head?, c = '\n')
    (more : Gap after gap) : Gap after (mark :: (body ++ gap))

/-- A text does not start with something that belongs to a gap. -/
def Visible (cs : List Char) : Prop :=
  ∀ c ∈ cs.head?, isBlank c = false ∧ isCommentMark c = false

private theorem unmarked_of_blank {c : Char} (blank : isBlank c = true) :
    isCommentMark c = false := by
  cases marked : isCommentMark c with
  | false => rfl
  | true =>
    simp only [isCommentMark, commentMarks, List.contains_cons, List.contains_nil, Bool.or_false,
      Bool.or_eq_true, beq_iff_eq] at marked
    rcases marked with rfl | rfl <;> revert blank <;> decide

private theorem splitGap_visible (inComment : Bool) (cs : List Char) :
    Visible (splitGap inComment cs).2 := by
  induction cs generalizing inComment with
  | nil => exact nofun
  | cons c rest ih =>
    unfold splitGap
    split
    · exact ih true
    · rename_i unmarked
      split
      · exact ih false
      · rename_i unblank
        intro other first
        cases first
        simp only [Bool.or_eq_true, not_or] at unmarked
        exact ⟨Bool.eq_false_iff.mpr unblank, Bool.eq_false_iff.mpr unmarked.2⟩

/-- From inside a comment, its rest is passed first; what follows is passed as outside of it. -/
private theorem splitGap_comment (cs : List Char) :
    ∃ body tail, cs = body ++ tail ∧ '\n' ∉ body ∧ (∀ c ∈ tail.head?, c = '\n') ∧
      splitGap true cs = (body ++ (splitGap false tail).1, (splitGap false tail).2) := by
  induction cs with
  | nil => exact ⟨[], [], rfl, nofun, nofun, rfl⟩
  | cons c rest ih =>
    by_cases newline : c = '\n'
    · subst newline
      refine ⟨[], '\n' :: rest, rfl, nofun, ?_, by simp [splitGap]⟩
      intro c first
      exact (Option.some.inj first).symm
    · obtain ⟨body, tail, split, inLine, ends, found⟩ := ih
      refine ⟨c :: body, tail, by rw [split]; rfl, ?_, ends, ?_⟩
      · simp [inLine, Ne.symm newline]
      · simp [splitGap, newline, found]

/-- What is passed over before a token is a gap. -/
theorem splitGap_gap (cs : List Char) : Gap (splitGap false cs).2 (splitGap false cs).1 := by
  match cs with
  | [] => exact .none
  | c :: rest =>
    by_cases marked : isCommentMark c = true
    · obtain ⟨body, tail, split, inLine, ends, found⟩ := splitGap_comment rest
      have shorter : tail.length < (c :: rest).length := by
        simp only [split, List.length_append, List.length_cons]
        omega
      have more := splitGap_gap tail
      have first : splitGap false (c :: rest) =
          (c :: (body ++ (splitGap false tail).1), (splitGap false tail).2) := by
        simp [splitGap, marked, found]
      rw [first]
      exact .comment marked inLine (by rwa [splitGap_append]) more
    · by_cases blank : isBlank c = true
      · have more := splitGap_gap rest
        simpa [splitGap, marked, blank] using Gap.blank blank more
      · simpa [splitGap, marked, blank] using Gap.none
termination_by cs.length

/-- A gap is passed over as a whole where something visible follows it. -/
theorem splitGap_of_gap {gap after : List Char} (skipped : Gap after gap)
    (visible : Visible after) : splitGap false (gap ++ after) = (gap, after) := by
  induction skipped with
  | none =>
    cases after with
    | nil => rfl
    | cons c rest =>
      obtain ⟨unblank, unmarked⟩ := visible c rfl
      simp [splitGap, unblank, unmarked]
  | blank blank more ih => simp [splitGap, blank, unmarked_of_blank blank, ih]
  | @comment mark body gap marked inLine ends more ih =>
    have inside : ∀ body : List Char, '\n' ∉ body →
        splitGap true (body ++ (gap ++ after)) = (body ++ gap, after) := by
      intro body inLine
      induction body with
      | nil =>
        -- A comment ends only at a newline, which is blank whether or not a comment ends there.
        have same : splitGap true (gap ++ after) = splitGap false (gap ++ after) := by
          cases tail : gap ++ after with
          | nil => rfl
          | cons c rest =>
            have newline : c = '\n' := ends c (by rw [tail]; rfl)
            simp [splitGap, newline]
        simpa [same] using ih
      | cons c rest step =>
        simp only [List.mem_cons, not_or] at inLine
        simp [splitGap, Ne.symm inLine.1, step inLine.2]
    simp [splitGap, marked, inside body inLine]

/-! ## Lexemes -/

/-- The characters of a lexeme before the text `after`, with the shape of its token. -/
inductive Spelling (after : List Char) : List Char → Shape → Prop
  | opening : Spelling after ['['] .opening
  | closing : Spelling after [']'] .closing
  | word {word : List Char} (nonempty : word ≠ []) (unbroken : ∀ c ∈ word, endsWord c = false)
    (maximal : ∀ c ∈ after.head?, endsWord c = true) : Spelling after word .word

theorem endsWord_eq_false {c : Char} : endsWord c = false ↔
    isBlank c = false ∧ isBracket c = false ∧ isCommentMark c = false := by
  simp [endsWord, and_assoc]

namespace Spelling

variable {word rest : List Char} {shape : Shape}

theorem nonempty (spelled : Spelling rest word shape) : 0 < word.length := by
  cases spelled with
  | opening | closing => simp
  | word nonempty => exact List.length_pos_iff.mpr nonempty

theorem shape_ne_ending (spelled : Spelling rest word shape) : shape ≠ .ending := by
  cases spelled <;> exact nofun

theorem visible (spelled : Spelling rest word shape) : Visible (word ++ rest) := by
  intro c first
  cases spelled with
  | opening | closing =>
    cases first
    decide
  | word nonempty unbroken _ =>
    cases word with
    | nil => exact absurd rfl nonempty
    | cons head tail =>
      cases first
      obtain ⟨unblank, -, unmarked⟩ := endsWord_eq_false.mp (unbroken c (by simp))
      exact ⟨unblank, unmarked⟩

/-- A lexeme is one bracket only if it is of that bracket's shape. -/
theorem shape_iff (spelled : Spelling rest word shape) :
    (shape = .opening ↔ word = ['[']) ∧ (shape = .closing ↔ word = [']']) := by
  cases spelled with
  | opening | closing => simp
  | word _ unbroken _ =>
    refine ⟨⟨nofun, ?_⟩, ⟨nofun, ?_⟩⟩
    · rintro rfl
      exact absurd (unbroken '[' (by simp)) (by decide)
    · rintro rfl
      exact absurd (unbroken ']' (by simp)) (by decide)

end Spelling

private theorem splitWord_unbroken (cs : List Char) :
    ∀ c ∈ (splitWord cs).1, endsWord c = false := by
  intro c member
  have every : (cs.takeWhile fun c => !endsWord c).all (fun c => !endsWord c) = true :=
    List.all_takeWhile
  simpa using List.all_eq_true.mp every c member

private theorem splitWord_maximal (cs : List Char) :
    ∀ c ∈ (splitWord cs).2.head?, endsWord c = true := by
  intro c first
  have stops := List.head?_dropWhile_not (fun c => !endsWord c) cs
  simp only [splitWord] at first
  rw [first] at stops
  simpa using stops

private theorem splitWord_of_maximal {word rest : List Char}
    (unbroken : ∀ c ∈ word, endsWord c = false) (maximal : ∀ c ∈ rest.head?, endsWord c = true) :
    splitWord (word ++ rest) = (word, rest) := by
  induction word with
  | nil =>
    cases rest with
    | nil => rfl
    | cons c tail => simp [splitWord, maximal c rfl]
  | cons c tail ih =>
    have step := ih fun other member => unbroken other (by simp [member])
    simp only [splitWord, Prod.mk.injEq] at step
    simp [splitWord, unbroken c (by simp), step.1, step.2]

/-- What the next lexeme of a text can be: a gap up to the end, or one before a spelled token. -/
inductive Reads (place : Place) (cs : List Char) : Lexeme → Prop
  | ends (skipped : Gap [] cs) :
    Reads place cs
      ⟨⟨.ending, "EOF", (place.over cs).line, (place.over cs).column⟩, place.over cs, []⟩
  | token {gap word rest : List Char} {shape : Shape} (split : cs = gap ++ (word ++ rest))
    (skipped : Gap (word ++ rest) gap) (spelled : Spelling rest word shape) :
    Reads place cs
      ⟨⟨shape, String.ofList (upperChars word), (place.over gap).line, (place.over gap).column⟩,
        (place.over gap).over word, rest⟩

theorem nextLexeme_reads (place : Place) (cs : List Char) :
    Reads place cs (nextLexeme place cs) := by
  have whole := splitGap_append false cs
  have skipped := splitGap_gap cs
  have visible := splitGap_visible false cs
  unfold nextLexeme
  generalize splitGap false cs = split at *
  obtain ⟨gap, after⟩ := split
  cases after with
  | nil =>
    simp only [List.append_nil] at whole
    subst whole
    exact .ends skipped
  | cons c rest =>
    simp only at whole skipped visible
    by_cases bracket : isBracket c = true
    · simp only [bracket, if_true]
      have either : c = '[' ∨ c = ']' := by simpa [isBracket] using bracket
      rcases either with rfl | rfl
      · exact @Reads.token _ _ gap ['['] rest _ whole.symm skipped .opening
      · exact @Reads.token _ _ gap [']'] rest _ whole.symm skipped .closing
    · obtain ⟨unblank, unmarked⟩ := visible c rfl
      have first : endsWord c = false :=
        endsWord_eq_false.mpr ⟨unblank, Bool.eq_false_iff.mpr bracket, unmarked⟩
      have spelled : Spelling (splitWord rest).2 (c :: (splitWord rest).1) .word := by
        refine .word nofun ?_ (splitWord_maximal rest)
        intro other member
        rcases List.mem_cons.mp member with rfl | later
        · exact first
        · exact splitWord_unbroken rest other later
      have tail : c :: (splitWord rest).1 ++ (splitWord rest).2 = c :: rest :=
        congrArg (c :: ·) (splitWord_append rest)
      simp only [bracket]
      exact .token (by rw [tail, whole]) (by rwa [tail]) spelled

/-- Only one lexeme can be the next one. -/
theorem Reads.nextLexeme {place : Place} {cs : List Char} {lexeme : Lexeme}
    (reads : Reads place cs lexeme) : nextLexeme place cs = lexeme := by
  cases reads with
  | ends skipped =>
    have split := splitGap_of_gap skipped nofun
    rw [List.append_nil] at split
    simp [TurtleScript.nextLexeme, split]
  | @token gap word rest shape whole skipped spelled =>
    have split := splitGap_of_gap skipped spelled.visible
    rw [← whole] at split
    cases spelled with
    | opening | closing =>
      simp only [TurtleScript.nextLexeme, split]
      rfl
    | word nonempty unbroken maximal =>
      cases word with
      | nil => exact absurd rfl nonempty
      | cons c tail =>
        have plain := (endsWord_eq_false.mp (unbroken c (by simp))).2.1
        have cut : splitWord (tail ++ rest) = (tail, rest) :=
          splitWord_of_maximal (fun other member => unbroken other (by simp [member])) maximal
        simp [TurtleScript.nextLexeme, split, plain, cut]

theorem lexFrom_of_ending {place : Place} {cs : List Char} {lexeme : Lexeme}
    (next : nextLexeme place cs = lexeme) (last : lexeme.token.shape = .ending) :
    lexFrom place cs = ([], lexeme.after) := by
  subst next
  rw [lexFrom, dif_pos last]

theorem lexFrom_of_token {place : Place} {cs : List Char} {lexeme : Lexeme}
    (next : nextLexeme place cs = lexeme) (more : lexeme.token.shape ≠ .ending) :
    lexFrom place cs = (lexeme.token :: (lexFrom lexeme.after lexeme.rest).1,
      (lexFrom lexeme.after lexeme.rest).2) := by
  subst next
  rw [lexFrom, dif_neg more]

/-! ## Places -/

theorem over_append (place : Place) (as bs : List Char) :
    place.over (as ++ bs) = (place.over as).over bs := by
  simp [Place.over]

theorem over_line (place : Place) (cs : List Char) :
    (place.over cs).line = place.line + Int.ofNat (cs.count '\n') := by
  induction cs generalizing place with
  | nil => simp [Place.over]
  | cons c rest ih =>
    have step := ih (place.step c)
    simp only [Place.over, List.foldl_cons] at step ⊢
    rw [step]
    by_cases newline : c = '\n'
    · simp only [Place.step, newline, if_true, List.count_cons_self, Int.ofNat_eq_natCast]
      omega
    · simp [Place.step, newline]

/-- The column counts from the last newline that was passed, or else from where it was. -/
theorem over_column (place : Place) (cs : List Char) :
    ('\n' ∉ cs ∧ (place.over cs).column = place.column + Int.ofNat cs.length) ∨
      ∃ before line, cs = before ++ '\n' :: line ∧ '\n' ∉ line ∧
        (place.over cs).column = 1 + Int.ofNat line.length := by
  induction cs generalizing place with
  | nil => exact .inl ⟨nofun, by simp [Place.over]⟩
  | cons c rest ih =>
    have step : place.over (c :: rest) = (place.step c).over rest := rfl
    rw [step]
    rcases ih (place.step c) with ⟨inLine, column⟩ | ⟨before, line, split, inLine, column⟩
    · by_cases newline : c = '\n'
      · refine .inr ⟨[], rest, by rw [newline]; rfl, inLine, ?_⟩
        rw [column, Place.step, if_pos newline]
      · refine .inl ⟨by simp [inLine, Ne.symm newline], ?_⟩
        rw [column, Place.step, if_neg newline]
        simp only [List.length_cons, Int.ofNat_eq_natCast]
        omega
    · exact .inr ⟨c :: before, line, by rw [split]; rfl, inLine, column⟩

/-- The line of an offset starts at the beginning of the text or just after the last newline before
the offset. -/
def LineStart (cs : List Char) (offset start : Nat) : Prop :=
  start ≤ offset ∧ (start = 0 ∨ cs[start - 1]? = some '\n') ∧ '\n' ∉ cs.extract start offset

private theorem LineStart.not_lt {cs : List Char} {offset a b : Nat} (first : LineStart cs offset a)
    (second : LineStart cs offset b) : ¬ a < b := by
  intro less
  obtain ⟨-, -, inLine⟩ := first
  obtain ⟨inside, zero | newline, -⟩ := second
  · omega
  · have there : (cs.extract a offset)[b - 1 - a]? = some '\n' := by
      rw [List.extract_eq_take_drop, List.getElem?_take_of_lt (by omega), List.getElem?_drop]
      rwa [show a + (b - 1 - a) = b - 1 by omega]
    exact inLine (List.mem_of_getElem? there)

theorem LineStart.unique {cs : List Char} {offset a b : Nat} (first : LineStart cs offset a)
    (second : LineStart cs offset b) : a = b := by
  have atLeast := first.not_lt second
  have atMost := second.not_lt first
  omega

/-- A text that starts at the first column is at the column that its last line gives. -/
theorem over_start_column (before rest : List Char) :
    ∃ start, LineStart (before ++ rest) before.length start ∧
      (Place.start.over before).column = 1 + Int.ofNat (before.length - start) := by
  rcases over_column .start before with ⟨inLine, column⟩ | ⟨early, line, split, inLine, column⟩
  · refine ⟨0, ⟨Nat.zero_le _, .inl rfl, ?_⟩, ?_⟩
    · simpa using inLine
    · simpa [Place.start] using column
  · refine ⟨early.length + 1, ⟨?_, .inr ?_, ?_⟩, ?_⟩
    · simp [split]
    · simp [split]
    · have after : before.drop (early.length + 1) = line := by simp [split]
      rwa [List.extract_eq_drop_take', List.take_left, after]
    · have length : before.length - (early.length + 1) = line.length := by
        simp only [split, List.length_append, List.length_cons]
        omega
      rw [column, length]

/-! ## Pieces -/

/-- A token and the stretch of the text that it stands for. -/
structure Piece where
  start : Nat
  stop : Nat
  token : Token

/-- The characters of a piece. -/
def Piece.chars (cs : List Char) (piece : Piece) : List Char :=
  cs.extract piece.start piece.stop

/-- The token of a piece is what its characters spell, at their place. -/
structure Spelled (cs : List Char) (piece : Piece) : Prop where
  nonempty : piece.start < piece.stop
  inside : piece.stop ≤ cs.length
  opening : piece.token.shape = .opening ↔ piece.chars cs = ['[']
  closing : piece.token.shape = .closing ↔ piece.chars cs = [']']
  word : piece.chars cs ≠ ['['] → piece.chars cs ≠ [']'] →
    piece.token.shape = .word ∧ (∀ c ∈ piece.chars cs, endsWord c = false) ∧
      ∀ c ∈ cs[piece.stop]?, endsWord c = true
  -- A bracket is its own upper case.
  text : piece.token.text = upper (String.ofList (piece.chars cs))
  line : piece.token.line = 1 + Int.ofNat ((cs.take piece.start).count '\n')
  column : ∃ start, LineStart cs piece.start start ∧
    piece.token.column = 1 + Int.ofNat (piece.start - start)

/-- The pieces of a text from an offset on, with nothing but gaps around them. -/
inductive Partition (cs : List Char) : Nat → List Piece → Prop
  | done {offset : Nat} (skipped : Gap [] (cs.drop offset)) : Partition cs offset []
  | piece {offset : Nat} {piece : Piece} {rest : List Piece} (ordered : offset ≤ piece.start)
    (skipped : Gap (cs.drop piece.start) (cs.extract offset piece.start))
    (spelled : Spelled cs piece) (more : Partition cs piece.stop rest) :
    Partition cs offset (piece :: rest)

private theorem upper_ofList (cs : List Char) :
    upper (String.ofList cs) = String.ofList (upperChars cs) := by
  simp [upper]

theorem Spelling.spelled {word rest : List Char} {shape : Shape}
    (spelling : Spelling rest word shape) (before : List Char) :
    Spelled (before ++ (word ++ rest))
      ⟨before.length, before.length + word.length, shape, String.ofList (upperChars word),
        (Place.start.over before).line, (Place.start.over before).column⟩ := by
  have chars : (before ++ (word ++ rest)).extract before.length
      (before.length + word.length) = word := by simp
  have after : (before ++ (word ++ rest))[before.length + word.length]? = rest.head? := by
    rw [List.getElem?_append_right (by omega), List.getElem?_append_right (by omega)]
    simp [List.head?_eq_getElem?]
  have nonempty := spelling.nonempty
  refine ⟨by simpa using nonempty, by simp, ?_, ?_, ?_, ?_, ?_, ?_⟩
  · simpa only [Piece.chars, chars] using spelling.shape_iff.1
  · simpa only [Piece.chars, chars] using spelling.shape_iff.2
  · simp only [Piece.chars, chars, after]
    cases spelling with
    | opening => exact fun other => absurd rfl other
    | closing => exact fun _ other => absurd rfl other
    | word _ unbroken maximal => exact fun _ _ => ⟨rfl, unbroken, maximal⟩
  · simp only [Piece.chars, chars, upper_ofList]
  · simp only [List.take_left]
    exact over_line .start before
  · exact over_start_column before (word ++ rest)

theorem Spelled.spelling {cs : List Char} {piece : Piece} (spelled : Spelled cs piece) :
    Spelling (cs.drop piece.stop) (piece.chars cs) piece.token.shape := by
  by_cases opening : piece.chars cs = ['[']
  · rw [opening, spelled.opening.mpr opening]
    exact .opening
  · by_cases closing : piece.chars cs = [']']
    · rw [closing, spelled.closing.mpr closing]
      exact .closing
    · obtain ⟨shape, unbroken, maximal⟩ := spelled.word opening closing
      rw [shape]
      refine .word ?_ unbroken ?_
      · intro none
        have length := congrArg List.length none
        have nonempty := spelled.nonempty
        have inside := spelled.inside
        simp only [Piece.chars, List.extract_eq_take_drop, List.length_take, List.length_drop,
          List.length_nil] at length
        omega
      · rwa [List.head?_drop]

/-- A piece leaves no choice for its token but the shape, and that follows from its characters. -/
theorem Spelled.token_eq {cs : List Char} {piece : Piece} (spelled : Spelled cs piece) :
    piece.token = ⟨piece.token.shape, String.ofList (upperChars (piece.chars cs)),
      (Place.start.over (cs.take piece.start)).line,
      (Place.start.over (cs.take piece.start)).column⟩ := by
  have inside : piece.start ≤ cs.length := by
    have nonempty := spelled.nonempty
    have within := spelled.inside
    omega
  have length : (cs.take piece.start).length = piece.start := List.length_take_of_le inside
  obtain ⟨start, begins, column⟩ := spelled.column
  obtain ⟨found, starts, columns⟩ := over_start_column (cs.take piece.start) (cs.drop piece.start)
  rw [List.take_append_drop, length] at starts
  have same : found = start := starts.unique begins
  rw [over_line, columns, length, same, ← upper_ofList, ← spelled.text]
  show piece.token = ⟨_, _, 1 + Int.ofNat ((cs.take piece.start).count '\n'), _⟩
  rw [← spelled.line, ← column]

/-- The text from an offset on is read as the pieces of a partition. -/
theorem lexFrom_partition {cs before rest : List Char} (whole : cs = before ++ rest) :
    ∃ pieces, Partition cs before.length pieces ∧
      lexFrom (Place.start.over before) rest = (pieces.map Piece.token, Place.start.over cs) := by
  -- The induction is on what is left of the text, which every token shortens.
  generalize next : nextLexeme (Place.start.over before) rest = lexeme
  have reads := nextLexeme_reads (Place.start.over before) rest
  rw [next] at reads
  cases reads with
  | ends skipped =>
    refine ⟨[], .done (by simpa [whole] using skipped), ?_⟩
    rw [lexFrom_of_ending next rfl, whole, over_append]
    rfl
  | @token gap word tail shape split skipped spelling =>
    have joined : cs = before ++ gap ++ (word ++ tail) := by simp [whole, split]
    have spelled := spelling.spelled (before ++ gap)
    rw [← joined] at spelled
    have shorter : tail.length < rest.length := by
      have nonempty := spelling.nonempty
      simp only [split, List.length_append]
      omega
    have between : cs.extract before.length (before ++ gap).length = gap := by simp [joined]
    have after : cs.drop (before ++ gap).length = word ++ tail := by rw [joined, List.drop_left]
    have remains : cs = before ++ gap ++ word ++ tail := by simp [joined]
    obtain ⟨pieces, partition, lexed⟩ := lexFrom_partition remains
    refine ⟨_ :: pieces, .piece (by simp) ?_ spelled ?_, ?_⟩
    · rwa [after, between]
    · rwa [← List.length_append]
    · rw [lexFrom_of_token next spelling.shape_ne_ending, ← over_append, ← over_append, lexed]
      rfl
termination_by rest.length

theorem Partition.spelled {cs : List Char} {offset : Nat} {pieces : List Piece}
    (partition : Partition cs offset pieces) : ∀ piece ∈ pieces, Spelled cs piece := by
  induction partition with
  | done => exact nofun
  | piece _ _ spelled _ ih =>
    intro other member
    rcases List.mem_cons.mp member with rfl | later
    · exact spelled
    · exact ih other later

theorem spelled_of_mem_tokens {text : String} {t : Token} (member : t ∈ tokens text) :
    ∃ piece, Spelled text.toList piece ∧ piece.token = t := by
  obtain ⟨pieces, partition, lexed⟩ := lexFrom_partition (List.nil_append text.toList).symm
  have all : tokens text = pieces.map Piece.token := congrArg Prod.fst lexed
  rw [all] at member
  obtain ⟨piece, among, rfl⟩ := List.mem_map.mp member
  exact ⟨piece, partition.spelled piece among, rfl⟩

theorem tokens_unended {text : String} : ∀ t ∈ tokens text, t.shape ≠ .ending := by
  intro t member
  obtain ⟨piece, spelled, rfl⟩ := spelled_of_mem_tokens member
  exact spelled.spelling.shape_ne_ending

/-! ## The cursor -/

private theorem drop_eq_extract_append (cs : List Char) {a b : Nat} (ordered : a ≤ b) :
    cs.drop a = cs.extract a b ++ cs.drop b := by
  have parts := List.take_append_drop (b - a) (cs.drop a)
  rw [List.drop_drop, Nat.add_sub_cancel' ordered] at parts
  rw [List.extract_eq_take_drop, parts]

private theorem take_append_extract (cs : List Char) {a b : Nat} (ordered : a ≤ b) :
    cs.take a ++ cs.extract a b = cs.take b := by
  have parts := List.take_append_drop a (cs.take b)
  rwa [List.take_take, Nat.min_eq_left ordered, ← List.extract_eq_drop_take'] at parts

/-- The cursor of a text at an offset. -/
def Cursor.atOffset (cs : List Char) (offset : Nat) : Cursor :=
  ⟨cs, Int.ofNat offset, Place.start.over (cs.take offset)⟩

/-- The next lexeme of a partition: that of its first piece, or the end of the text. -/
private theorem Partition.nextLexeme {cs : List Char} {offset : Nat} {pieces : List Piece}
    (partition : Partition cs offset pieces) :
    match pieces with
    | [] => ∃ token, token.shape = .ending ∧
        nextLexeme (Place.start.over (cs.take offset)) (cs.drop offset) =
          ⟨token, Place.start.over cs, []⟩
    | first :: _ => first.token.shape ≠ .ending ∧
        nextLexeme (Place.start.over (cs.take offset)) (cs.drop offset) =
          ⟨first.token, Place.start.over (cs.take first.stop), cs.drop first.stop⟩ := by
  cases partition with
  | done skipped =>
    have reads : Reads (Place.start.over (cs.take offset)) (cs.drop offset) _ := .ends skipped
    have next := reads.nextLexeme
    rw [← over_append, List.take_append_drop] at next
    exact ⟨_, rfl, next⟩
  | @piece _ piece rest ordered skipped spelled more =>
    have forward : piece.start ≤ piece.stop := Nat.le_of_lt spelled.nonempty
    have cut := drop_eq_extract_append cs forward
    have split := (drop_eq_extract_append cs ordered).trans (congrArg _ cut)
    rw [cut] at skipped
    have reads : Reads (Place.start.over (cs.take offset)) (cs.drop offset) _ :=
      .token split skipped spelled.spelling
    have next := reads.nextLexeme
    rw [← over_append, ← over_append, take_append_extract cs ordered,
      take_append_extract cs forward] at next
    refine ⟨spelled.spelling.shape_ne_ending, ?_⟩
    rw [next, spelled.token_eq]
    rfl

/-- A partition leaves no choice for the tokens of its text. -/
theorem Partition.lexFrom {cs : List Char} {offset : Nat} {pieces : List Piece}
    (partition : Partition cs offset pieces) :
    lexFrom (Place.start.over (cs.take offset)) (cs.drop offset) =
      (pieces.map Piece.token, Place.start.over cs) := by
  induction partition with
  | done skipped =>
    obtain ⟨token, last, next⟩ := (Partition.done skipped).nextLexeme
    rw [lexFrom_of_ending next last]
    rfl
  | piece ordered skipped spelled more ih =>
    obtain ⟨unended, next⟩ := (Partition.piece ordered skipped spelled more).nextLexeme
    rw [lexFrom_of_token next unended, ih]
    rfl

/-- Taking tokens one by one moves a cursor from the end of one piece to the end of the next, and
from the last one to the end of the text. -/
def Cursor.Walks (cs : List Char) : Nat → List Piece → Prop
  | offset, [] => ∃ token, token.shape = .ending ∧
      (Cursor.atOffset cs offset).nextToken = (token, Cursor.atOffset cs cs.length)
  | offset, piece :: rest =>
    (Cursor.atOffset cs offset).nextToken = (piece.token, Cursor.atOffset cs piece.stop) ∧
      Walks cs piece.stop rest

private theorem atOffset_remaining (cs : List Char) (offset : Nat) :
    (Cursor.atOffset cs offset).remaining = cs.drop offset := by
  have inside : ¬ Int.ofNat offset < 0 := by simp
  rw [Cursor.remaining, Cursor.atOffset, if_neg inside]
  rfl

private theorem nextToken_atOffset {cs : List Char} {offset stop : Nat} {token : Token}
    (forward : offset ≤ stop) (inside : stop ≤ cs.length)
    (next : nextLexeme (Place.start.over (cs.take offset)) (cs.drop offset) =
      ⟨token, Place.start.over (cs.take stop), cs.drop stop⟩) :
    (Cursor.atOffset cs offset).nextToken = (token, Cursor.atOffset cs stop) := by
  have passed : Int.ofNat offset + Int.ofNat ((cs.drop offset).length - (cs.drop stop).length) =
      Int.ofNat stop := by
    simp only [List.length_drop, Int.ofNat_eq_natCast]
    omega
  simp only [Cursor.nextToken, atOffset_remaining, Cursor.leave]
  simp only [Cursor.atOffset, next, passed]

private theorem Partition.walks {cs : List Char} {offset : Nat} {pieces : List Piece}
    (within : offset ≤ cs.length) (partition : Partition cs offset pieces) :
    Cursor.Walks cs offset pieces := by
  induction partition with
  | done skipped =>
    obtain ⟨token, last, next⟩ := (Partition.done skipped).nextLexeme
    refine ⟨token, last, nextToken_atOffset within (Nat.le_refl _) ?_⟩
    rw [next, List.take_length, List.drop_length]
  | @piece offset piece rest ordered skipped spelled more ih =>
    obtain ⟨-, next⟩ := (Partition.piece ordered skipped spelled more).nextLexeme
    have forward : offset ≤ piece.stop := Nat.le_trans ordered (Nat.le_of_lt spelled.nonempty)
    exact ⟨nextToken_atOffset forward spelled.inside next, ih spelled.inside⟩

/-! ## Texts -/

/-- A text is partitioned into pieces that give its tokens in order, and taking the tokens one by
one goes along those pieces; all of them together are taken when the cursor is at the end. The laws
of a partition determine the tokens: no other tokens satisfy them. -/
theorem tokens_partition_text (text : String) :
    (∃ pieces, Partition text.toList 0 pieces ∧ tokens text = pieces.map Piece.token ∧
      Cursor.Walks text.toList 0 pieces) ∧
    (∀ pieces, Partition text.toList 0 pieces → pieces.map Piece.token = tokens text) ∧
    (Cursor.atOffset text.toList 0).takeTokens =
      (tokens text, Cursor.atOffset text.toList text.toList.length) := by
  obtain ⟨pieces, partition, lexed⟩ := lexFrom_partition (List.nil_append text.toList).symm
  refine ⟨⟨pieces, partition, congrArg Prod.fst lexed, partition.walks (Nat.zero_le _)⟩, ?_, ?_⟩
  · intro others other
    exact (congrArg Prod.fst other.lexFrom).symm
  · have remaining : (Cursor.atOffset text.toList 0).remaining = text.toList :=
      atOffset_remaining text.toList 0
    have final : (lexFrom Place.start text.toList).2 = Place.start.over text.toList :=
      congrArg Prod.snd lexed
    have all : lexFrom Place.start text.toList = (tokens text, Place.start.over text.toList) := by
      rw [tokens, ← final]
    simp only [Cursor.takeTokens, remaining, Cursor.leave]
    simp only [Cursor.atOffset, List.take_zero, List.take_length]
    simp [Place.over, all]

/-- A comment glued to a word, with a bracket inside it, and a word on the next line. -/
example : tokens "fd#[\n\rbk" = [⟨.word, "FD", 1, 1⟩, ⟨.word, "BK", 2, 2⟩] := by cbv

end TurtleScript
