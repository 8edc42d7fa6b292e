import TurtleScript.Proofs.Likeness

/-!
The texts of tokens, put next to each other with one blank between any two, are read back as they
are. Every token text is a bracket or a word in upper case, which putting it in upper case once more
does not change, and a blank ends it. So reading a text brings it into a form that reading again
does not alter, and the lists of texts that have this form are exactly those that some text gives.
-/
namespace TurtleScript

open Text

/-! ## Token texts -/

/-- The text of a token: a bracket, or a word in upper case. -/
inductive TokenText : String → Prop
  | opening : TokenText "["
  | closing : TokenText "]"
  | word {text : String} (nonempty : text ≠ "") (unbroken : ∀ c ∈ text.toList, endsWord c = false)
    (settled : upper text = text) : TokenText text

theorem TokenText.upper {text : String} (whole : TokenText text) : upper text = text := by
  cases whole with
  | opening | closing => decide +kernel
  | word _ _ settled => exact settled

/-- A token text spells a token wherever something follows that ends a word. -/
theorem TokenText.spelling {text : String} (whole : TokenText text) {rest : List Char}
    (apart : ∀ c ∈ rest.head?, endsWord c = true) : ∃ shape, Spelling rest text.toList shape := by
  cases whole with
  | opening => exact ⟨_, .opening⟩
  | closing => exact ⟨_, .closing⟩
  | word nonempty unbroken _ =>
    exact ⟨_, .word (by simpa using nonempty) unbroken apart⟩

theorem Spelling.tokenText {rest word : List Char} {shape : Shape}
    (spelled : Spelling rest word shape) : TokenText (String.ofList (upperChars word)) := by
  cases spelled with
  | opening => exact .opening
  | closing => exact .closing
  | word nonempty unbroken _ =>
    refine .word ?_ ?_ ?_
    · simpa using upperChars_ne_nil nonempty
    · simpa using upperChars_unbroken_iff.mpr unbroken
    · have twice := upper_upper (String.ofList word)
      simpa [upper] using twice

theorem tokenText_of_mem {text : String} {t : Token} (member : t ∈ tokens text) :
    TokenText t.text := by
  obtain ⟨piece, spelled, rfl⟩ := spelled_of_mem_tokens member
  rw [spelled.token_eq]
  exact spelled.spelling.tokenText

/-! ## Reading with blanks between -/

theorem lexFrom_of_gap {gap : List Char} (place : Place) (skipped : Gap [] gap) :
    lexFrom place gap = ([], place.over gap) := by
  have reads : Reads place gap _ := .ends skipped
  exact lexFrom_of_ending reads.nextLexeme rfl

/-- A gap and a lexeme at the front of a text are read as one token. -/
theorem lexFrom_of_spelling {gap word rest : List Char} {shape : Shape} (place : Place)
    (skipped : Gap (word ++ rest) gap) (spelled : Spelling rest word shape) :
    (lexFrom place (gap ++ (word ++ rest))).1 =
      ⟨shape, String.ofList (upperChars word), (place.over gap).line, (place.over gap).column⟩ ::
        (lexFrom ((place.over gap).over word) rest).1 := by
  have reads : Reads place (gap ++ (word ++ rest)) _ := .token rfl skipped spelled
  rw [lexFrom_of_token reads.nextLexeme spelled.shape_ne_ending]

/-- Texts with a blank before each of them. -/
private def spaced (texts : List String) : List Char :=
  texts.flatMap fun text => ' ' :: text.toList

private theorem spaced_apart (texts : List String) : ∀ c ∈ (spaced texts).head?, endsWord c = true := by
  cases texts with
  | nil => exact nofun
  | cons text rest => rintro c ⟨⟩; decide

private theorem chars_join (first : String) (rest : List String) :
    (" ".intercalate (first :: rest)).toList = first.toList ++ spaced rest := by
  induction rest generalizing first with
  | nil => simp [spaced]
  | cons second others ih =>
    rw [String.intercalate_cons_cons, String.toList_append, String.toList_append, ih second]
    simp [spaced]

/-- The first of several texts with blanks between is read as one token, and then the others. -/
private theorem texts_of_first {first : String} {gap : List Char} (rest : List String) (place : Place)
    (whole : TokenText first) (skipped : Gap (first.toList ++ spaced rest) gap) :
    ∃ next, (lexFrom place (gap ++ (first.toList ++ spaced rest))).1.map Token.text =
      first :: (lexFrom next (spaced rest)).1.map Token.text := by
  obtain ⟨shape, spelled⟩ := whole.spelling (spaced_apart rest)
  refine ⟨(place.over gap).over first.toList, ?_⟩
  rw [lexFrom_of_spelling place skipped spelled, List.map_cons]
  have settled : String.ofList (upperChars first.toList) = first := whole.upper
  rw [settled]

private theorem texts_of_spaced (texts : List String) (each : ∀ text ∈ texts, TokenText text)
    (place : Place) : (lexFrom place (spaced texts)).1.map Token.text = texts := by
  induction texts generalizing place with
  | nil => rw [spaced, List.flatMap_nil, lexFrom_of_gap place .none]; rfl
  | cons first rest ih =>
    have blank : Gap (first.toList ++ spaced rest) [' '] := .blank (by decide) .none
    obtain ⟨next, read⟩ := texts_of_first rest place (each first (by simp)) blank
    rw [ih (fun text member => each text (by simp [member])) next] at read
    exact read

theorem tokenTexts_join {texts : List String} (each : ∀ text ∈ texts, TokenText text) :
    tokenTexts (" ".intercalate texts) = texts := by
  cases texts with
  | nil => decide +kernel
  | cons first rest =>
    obtain ⟨next, read⟩ := texts_of_first rest .start (each first (by simp)) .none
    rw [texts_of_spaced rest (fun text member => each text (by simp [member])) next] at read
    rw [tokenTexts, tokens, chars_join]
    exact read

/-- Reading a text, putting blanks between the texts of its tokens and reading again gives the same
texts: whatever could be lost or changed was lost or changed the first time. The lists of texts that
reading can give are those of brackets and of words in upper case. -/
theorem respaced_tokens_unchanged :
    (∀ text, tokenTexts (" ".intercalate (tokenTexts text)) = tokenTexts text) ∧
    ∀ texts, (∃ text, tokenTexts text = texts) ↔ ∀ text ∈ texts, TokenText text := by
  have each : ∀ text, ∀ one ∈ tokenTexts text, TokenText one := by
    intro text one member
    obtain ⟨t, among, rfl⟩ := List.mem_map.mp member
    exact tokenText_of_mem among
  refine ⟨fun text => tokenTexts_join (each text), fun texts => ⟨?_, ?_⟩⟩
  · rintro ⟨text, rfl⟩
    exact each text
  · intro whole
    exact ⟨" ".intercalate texts, tokenTexts_join whole⟩

/-- Three letters for one, a bracket glued to a word, and a comment: nothing is left to change. -/
example : tokenTexts "ﬃ]#fd" = ["FFI", "]"] ∧ tokenTexts "FFI ]" = ["FFI", "]"] := by decide +kernel

end TurtleScript
