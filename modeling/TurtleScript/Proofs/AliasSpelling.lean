import Mathlib.Data.List.DropRight
import TurtleScript.Proofs.Respacing
import TurtleScript.Proofs.Vocabulary

/-!
What the alias tables accept is what the language reads as one word. A spelling is accepted by what
is left of it without the blanks around it and in upper case, and a word is cut out of a text before
it is put in upper case; the two agree since upper case neither makes nor hides what ends a word. So
an accepted alias is read as the word that it is used as, in whatever letters it is written, and the
words that are no numbers are all accepted.
-/
namespace TurtleScript

open Text

/-! ## Words between blanks -/

/-- A text is what is left of it when it is stripped, with blanks before and after. -/
theorem strip_between_blanks (text : String) :
    ∃ after, text.toList = text.toList.takeWhile isBlank ++ ((strip text).toList ++ after) ∧
      ∀ c ∈ after, isBlank c = true := by
  refine ⟨(text.toList.dropWhile isBlank).rtakeWhile isBlank, ?_, ?_⟩
  · have back : trimChars isBlank text.toList ++
        (text.toList.dropWhile isBlank).rtakeWhile isBlank = text.toList.dropWhile isBlank :=
      List.rdropWhile_append_rtakeWhile ..
    rw [strip, String.toList_ofList, back, List.takeWhile_append_dropWhile]
  · intro c member
    exact List.mem_rtakeWhile_imp member

theorem gap_of_blanks {after gap : List Char} (blank : ∀ c ∈ gap, isBlank c = true) :
    Gap after gap := by
  induction gap with
  | nil => exact .none
  | cons c rest ih =>
    exact .blank (blank c (by simp)) (ih fun other member => blank other (by simp [member]))

theorem Usable.unbroken {word : String} {cs : List Char} (usable : Usable word)
    (raised : String.ofList (upperChars cs) = word) : ∀ c ∈ cs, endsWord c = false := by
  subst raised
  apply upperChars_unbroken_iff.mp
  intro c member
  exact endsWord_eq_false.mpr (usable.whole c (by simpa using member))

/-- Characters whose upper case can be used as a word spell a word. -/
theorem Usable.spelling {word : String} {cs rest : List Char} (usable : Usable word)
    (raised : String.ofList (upperChars cs) = word)
    (apart : ∀ c ∈ rest.head?, endsWord c = true) : Spelling rest cs .word := by
  refine .word ?_ (usable.unbroken raised) apart
  rintro rfl
  exact usable.nonempty raised.symm

/-- The place of the first character of a text that is not blank. -/
def Place.ofWord (text : String) : Place :=
  Place.start.over (text.toList.takeWhile isBlank)

/-- An accepted alias at the front of a text is read as its word, and what follows it is read after
blanks. -/
theorem lexFrom_of_alias {spelling word : String} (accepted : aliasWord? spelling = some word) :
    ∃ next after, (∀ c ∈ after, isBlank c = true) ∧
      ∀ rest, (∀ c ∈ rest.head?, endsWord c = true) →
        (lexFrom .start (spelling.toList ++ rest)).1 =
          ⟨.word, word, (Place.ofWord spelling).line, (Place.ofWord spelling).column⟩ ::
            (lexFrom next (after ++ rest)).1 := by
  obtain ⟨raised, usable⟩ := aliasWord?_eq_some_iff.mp accepted
  obtain ⟨after, split, blank⟩ := strip_between_blanks spelling
  refine ⟨(Place.ofWord spelling).over (strip spelling).toList, after, blank, fun rest apart => ?_⟩
  have ends : ∀ c ∈ (after ++ rest).head?, endsWord c = true := by
    cases after with
    | nil => exact apart
    | cons c others =>
      rintro _ ⟨⟩
      simp [endsWord, blank c (by simp)]
  have spelled : Spelling (after ++ rest) (strip spelling).toList .word :=
    usable.spelling raised ends
  have before : Gap ((strip spelling).toList ++ (after ++ rest))
      (spelling.toList.takeWhile isBlank) :=
    gap_of_blanks fun c member => List.mem_takeWhile_imp member
  have read := lexFrom_of_spelling .start before spelled
  have whole := congrArg (· ++ rest) split.symm
  simp only [List.append_assoc] at whole
  have text : String.ofList (upperChars (strip spelling).toList) = word := raised
  rw [whole, text] at read
  exact read

theorem tokens_of_alias {spelling word : String} (accepted : aliasWord? spelling = some word) :
    tokens spelling =
      [⟨.word, word, (Place.ofWord spelling).line, (Place.ofWord spelling).column⟩] := by
  obtain ⟨next, after, blank, read⟩ := lexFrom_of_alias accepted
  have alone := read [] nofun
  rw [List.append_nil, List.append_nil, lexFrom_of_gap next (gap_of_blanks blank)] at alone
  exact alone

/-- With a number behind it, an accepted alias is read as its word and the number. -/
theorem tokens_of_alias_number {spelling word : String}
    (accepted : aliasWord? spelling = some word) : ∃ place : Place, tokens (spelling ++ " 1") =
      [⟨.word, word, (Place.ofWord spelling).line, (Place.ofWord spelling).column⟩,
        ⟨.word, "1", place.line, place.column⟩] := by
  obtain ⟨next, after, blank, read⟩ := lexFrom_of_alias accepted
  have one : Spelling [] ['1'] .word := by
    refine .word nofun (fun c member => ?_) nofun
    rw [List.mem_singleton.mp member]
    decide
  have between : Gap (['1'] ++ []) (after ++ [' ']) := by
    refine gap_of_blanks fun c member => ?_
    rcases List.mem_append.mp member with inside | last
    · exact blank c inside
    · rw [List.mem_singleton.mp last]
      decide
  have number := lexFrom_of_spelling next between one
  rw [lexFrom_of_gap _ .none] at number
  refine ⟨next.over (after ++ [' ']), ?_⟩
  have both := read [' ', '1'] (by rintro c ⟨⟩; decide)
  rw [show after ++ [' ', '1'] = after ++ [' '] ++ (['1'] ++ []) by simp, number] at both
  rw [tokens, String.toList_append]
  exact both

/-! ## Using an alias -/

/-- A command at the current token is read as one of the kind. -/
structure Reader.Dispatches (r : Reader) (kind : Kind) : Prop where
  valued : kind.takesNumber = true → r.readCommand = r.readValue kind
  alone : kind.standsAlone = true → r.readCommand =
    .ok (some ⟨kind, none, [], r.current.line, r.current.column⟩, r.advance)
  repeated : kind = .repetition → r.readCommand = r.readRepeat

theorem dispatches_of_kind {r : Reader} {kind : Kind}
    (named : r.keywords.kind? r.current = some kind) : r.Dispatches kind := by
  have read : r.readCommand = r.take (firstStep r.keywords r.stream) := rfl
  refine ⟨fun valued => ?_, fun alone => ?_, fun repeated => ?_⟩
  · rw [read, firstStep_valued named valued]
    rfl
  · rw [read, firstStep_alone named alone]
    rfl
  · subst repeated
    rw [read, firstStep_repetition named]
    rfl

/-- The configuration with one alias for a command. -/
def AliasConfig.single (spelling name : String) : AliasConfig :=
  .ofPairs [(.word spelling, .text name)]

theorem AliasConfig.assigns_single {spelling name word : String} {kind : Kind} :
    (single spelling name).Assigns word kind ↔
      upper (strip spelling) = word ∧ Kind.command? name = some kind := by
  rw [Kind.command?_eq_some_iff]
  constructor
  · rintro ⟨given, ⟨command, listed, holds⟩ | _, rfl⟩
    obtain ⟨rfl, same⟩ := Prod.mk.inj (List.mem_singleton.mp listed)
    cases holds
    exact ⟨rfl, command, Value.text.inj same⟩
  · rintro ⟨rfl, command, rfl⟩
    exact ⟨spelling, .named command (List.mem_singleton.mpr rfl) (.word spelling), rfl⟩

/-- A table to which one alias was added says of its word that it is for the command, and of every
other word what it said. -/
theorem AliasTable.lookup_of_single {t new : AliasTable} {spelling name word : String}
    (accepted : aliasWord? spelling = some word)
    (done : t.configure (.single spelling name) = .ok new) :
    ∃ kind, Kind.command? name = some kind ∧ new.words.lookup word = some kind ∧
      ∀ other, other ≠ word → new.words.lookup other = t.words.lookup other := by
  obtain ⟨raised, -⟩ := aliasWord?_eq_some_iff.mp accepted
  have proper := (configure_accepts done).proper
  obtain ⟨kind, command, named⟩ := proper _ (List.mem_singleton.mpr rfl)
  have found : Kind.command? name = some kind :=
    Kind.command?_eq_some_iff.mpr ⟨command, (Value.text.inj named).symm⟩
  refine ⟨kind, found, ?_, fun other differs => Option.ext fun known => ?_⟩
  · exact (configure_joins done word kind).mpr (.inr (AliasConfig.assigns_single.mpr ⟨raised, found⟩))
  · rw [configure_joins done, Joined, AliasConfig.assigns_single]
    exact or_iff_left fun given => differs (given.1.symm.trans raised)

/-- The program that is an alias for a command with a number, and the number. -/
theorem readProgram_of_alias {keywords : Keywords} {spelling word : String} {kind : Kind}
    (accepted : aliasWord? spelling = some word) (known : keywords.lookup word = some kind)
    (valued : kind.takesNumber = true) : readProgram keywords (spelling ++ " 1") =
      ⟨[⟨kind, some (.real 1.0), [], (Place.ofWord spelling).line,
        (Place.ofWord spelling).column⟩], []⟩ := by
  obtain ⟨place, read⟩ := tokens_of_alias_number accepted
  have one : Token.number? ⟨.word, "1", place.line, place.column⟩ = some 1.0 := by
    have value : wordNumber? "1" = some 1.0 := by decide +kernel
    simpa [Token.number?] using value
  have derived : Phrase.Derives keywords [.valued
      ⟨.word, word, (Place.ofWord spelling).line, (Place.ofWord spelling).column⟩
      ⟨.word, "1", place.line, place.column⟩ kind 1.0] (tokens (spelling ++ " 1")) :=
    ⟨⟨⟨by simpa [Keywords.kind?] using known, valued, one⟩, trivial⟩, read.symm⟩
  exact derived.readTokens

/-- A piece of a text whose characters in upper case are a word that can be used is a token for that
word. -/
theorem Usable.token_of_piece {word : String} (usable : Usable word) {cs : List Char}
    {piece : Piece} (spelled : Spelled cs piece)
    (raised : upper (String.ofList (piece.chars cs)) = word) :
    piece.token.shape = .word ∧ piece.token.text = word := by
  refine ⟨?_, spelled.text.trans raised⟩
  have chars : String.ofList (upperChars (piece.chars cs)) = word := by
    simpa [upper] using raised
  have unbroken := usable.unbroken chars
  have unlike : ∀ c, endsWord c = true → piece.chars cs ≠ [c] := by
    intro c ends one
    simp [unbroken c (by simp [one])] at ends
  exact (spelled.word (unlike '[' (by decide)) (unlike ']' (by decide))).1

/-- The words of a text can be used as aliases, unless they are numbers. -/
theorem aliasWord?_of_token {text : String} {t : Token} (member : t ∈ tokens text)
    (word : t.shape = .word) (noNumber : isNumeral t.text = false) :
    aliasWord? t.text = some t.text := by
  have whole := tokenText_of_mem member
  have shape : Shape.ofText (upper t.text) = .word :=
    (congrArg Token.shape (ofText_of_mem_tokens member)).trans word
  generalize t.text = own at *
  cases whole with
  | opening | closing => exact absurd shape (by decide +kernel)
  | word nonempty unbroken settled =>
    have usable : Usable own :=
      ⟨nonempty, fun c among => endsWord_eq_false.mp (unbroken c among), noNumber⟩
    refine aliasWord?_eq_some_iff.mpr ⟨?_, usable⟩
    rw [strip_of_unblank fun c among => (usable.whole c among).1, settled]

/-- Every alias that is accepted can be typed: it is read as the word that it is used as, and so is
everything that is that word in upper case. A table to which it was added reads that word as its
command wherever a command is read, and numbers as it did before. And every word that can be typed
is accepted, unless it is a number. -/
theorem accepted_aliases_can_be_typed :
    (∀ spelling word, aliasWord? spelling = some word →
      tokenTexts spelling = [word] ∧ tokens word = [⟨.word, word, 1, 1⟩] ∧
      isNumeral word = false ∧ wordNumber? word = none ∧
      (∀ (text : String) (pieces : List Piece), Partition text.toList 0 pieces →
        ∀ piece ∈ pieces, upper (String.ofList (piece.chars text.toList)) = word →
          piece.token ∈ tokens text ∧ piece.token.shape = .word ∧ piece.token.text = word) ∧
      ∀ (t new : AliasTable) (name : String),
        t.configure (.single spelling name) = .ok new →
        ∃ kind, Kind.command? name = some kind ∧
          (∀ r : Reader, r.keywords = new.words → r.current.shape = .word →
            r.current.text = word → r.Dispatches kind) ∧
          (kind.takesNumber = true → readProgram new.words (spelling ++ " 1") =
            ⟨[⟨kind, some (.real 1.0), [], (Place.ofWord spelling).line,
              (Place.ofWord spelling).column⟩], []⟩) ∧
          ∀ number : Token, isNumeral number.text = true →
            number.text ≠ word ∧ new.words.kind? number = t.words.kind? number) ∧
    ∀ text, ∀ t ∈ tokens text, t.shape = .word → isNumeral t.text = false →
      aliasWord? t.text = some t.text := by
  refine ⟨fun spelling word accepted => ?_, fun text t member => aliasWord?_of_token member⟩
  have usable := (aliasWord?_eq_some_iff.mp accepted).2
  refine ⟨?_, ?_, usable.noNumber, wordNumber?_of_not_numeral usable.noNumber, ?_, ?_⟩
  · rw [tokenTexts, tokens_of_alias accepted]
    rfl
  · have unblank : Place.ofWord word = .start := by
      have first : word.toList.takeWhile isBlank = [] := by
        rw [List.takeWhile_eq_nil_iff]
        intro inside
        simp [(usable.whole _ (List.getElem_mem inside)).1]
      rw [Place.ofWord, first]
      rfl
    rw [tokens_of_alias (aliasWord?_fixed accepted), unblank]
    rfl
  · intro text pieces partition piece among raised
    have all : tokens text = pieces.map Piece.token := congrArg Prod.fst partition.lexFrom
    rw [all]
    exact ⟨List.mem_map_of_mem among,
      usable.token_of_piece (partition.spelled piece among) raised⟩
  · intro t new name done
    obtain ⟨kind, command, known, others⟩ := AliasTable.lookup_of_single accepted done
    refine ⟨kind, command, ?_, readProgram_of_alias accepted known, ?_⟩
    · intro r same shape text
      exact dispatches_of_kind (by simp [Keywords.kind?, same, shape, text, known])
    · intro number numeral
      have differs : number.text ≠ word := by
        rintro rfl
        simp [usable.noNumber] at numeral
      exact ⟨differs, by simp only [Keywords.kind?, others number.text differs]⟩

/-- A word that grows in upper case, with blanks around it, for a movement; and one of its other
spellings. -/
theorem accepted_aliases_can_be_typed_longer :
    aliasWord? " straße\n" = some "STRASSE" ∧ tokenTexts " straße\n" = ["STRASSE"] ∧
      (∃ new, AliasTable.standard.configure (.single " straße\n" "FORWARD") = .ok new ∧
        readProgram new.words (" straße\n" ++ " 1") =
          ⟨[⟨.forward, some (.real 1.0), [], 1, 2⟩], []⟩) ∧
      aliasWord? "STRASSE" = some "STRASSE" := by
  have accepted : aliasWord? " straße\n" = some "STRASSE" := by decide +kernel
  obtain ⟨read, -, -, -, -, used⟩ := accepted_aliases_can_be_typed.1 _ _ accepted
  refine ⟨accepted, read, ?_, ?_⟩
  · have taken : (AliasTable.standard.configure (.single " straße\n" "FORWARD")).isOk = true := by
      decide +kernel
    cases done : AliasTable.standard.configure (.single " straße\n" "FORWARD") with
    | error fault => simp [done, Except.isOk, Except.toBool] at taken
    | ok new =>
      obtain ⟨kind, command, -, program, -⟩ := used _ new "FORWARD" done
      cases command
      exact ⟨new, rfl, program rfl⟩
  · exact accepted_aliases_can_be_typed.2 "sTraße 5" ⟨.word, "STRASSE", 1, 1⟩ (by decide +kernel)
      rfl (by decide +kernel)

end TurtleScript
