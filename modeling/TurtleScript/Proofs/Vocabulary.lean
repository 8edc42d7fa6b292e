import TurtleScript.Proofs.Accounting
import TurtleScript.Proofs.Aliases
import TurtleScript.Proofs.Likeness

/-!
What the words of a table mean for reading. A larger table reads every program of a smaller one as
the smaller one did: a derivation never asks what a word does not mean. And the words for one
command can be exchanged for each other in any program, right or wrong, where the table gives no
name to a number. Alias tables satisfy both conditions, however they came about.
-/
namespace TurtleScript

/-! ## Larger tables -/

/-- The second table has every word of the first one, for the same command. -/
def Keywords.Within (small large : Keywords) : Prop :=
  ∀ ⦃word kind⦄, small.lookup word = some kind → large.lookup word = some kind

section Larger

variable {small large : Keywords}

private theorem kind?_within (within : small.Within large) {t : Token} {kind : Kind}
    (named : small.kind? t = some kind) : large.kind? t = some kind := by
  have word := word_of_kind named
  simp only [Keywords.kind?, word, if_true] at named ⊢
  exact within named

mutual

private theorem fits_within (within : small.Within large) :
    (phrase : Phrase) → phrase.Fits small → phrase.Fits large
  | .valued _ _ _ _, ⟨named, valued, numeric⟩ => ⟨kind?_within within named, valued, numeric⟩
  | .plain _ _, ⟨named, alone⟩ => ⟨kind?_within within named, alone⟩
  | .repeated _ _ _ _ body _, ⟨named, counted, range, opens, filled, fits, closes⟩ =>
    ⟨kind?_within within named, counted, range, opens, filled,
      fitAll_within within body fits, closes⟩

private theorem fitAll_within (within : small.Within large) :
    (phrases : List Phrase) → Phrase.FitAll small phrases → Phrase.FitAll large phrases
  | [], _ => trivial
  | phrase :: rest, ⟨fits, others⟩ =>
    ⟨fits_within within phrase fits, fitAll_within within rest others⟩

end

/-- Whether an argument is a number is not for the table to say, so a derivation stays one. -/
theorem readTokens_within (within : small.Within large) {tokens : List Token}
    (unended : ∀ t ∈ tokens, t.shape ≠ .ending) (clean : (readTokens small tokens).errors = []) :
    readTokens large tokens = readTokens small tokens := by
  obtain ⟨phrases, derived⟩ := derives_of_clean unended clean
  have larger : Phrase.Derives large phrases tokens :=
    ⟨fitAll_within within phrases derived.fits, derived.spelled⟩
  rw [derived.readTokens, larger.readTokens]

end Larger

namespace AliasTable

/-- Aliases extend the language and change nothing in it. Whatever was asked of a table since it had
the standard words only, and whatever is asked of it later, a text that is a program before is the
same program afterwards, down to the places of its commands. -/
theorem aliases_extend_language (earlier later : List AliasCall) (text : String)
    (clean : (readProgram (standard.afterAll earlier).words text).errors = []) :
    readProgram ((standard.afterAll earlier).afterAll later).words text =
      readProgram (standard.afterAll earlier).words text :=
  readTokens_within (fun _ _ known => afterAll_keeps _ later known) tokens_unended clean

/-- A repetition with standard words, before and after a word of the learner's own was added. -/
theorem aliases_extend_repetition :
    (readProgram standard.words "repeat 2 [fd 10 pu]").errors = [] ∧
      readProgram (standard.after (.configure (.named [(.word "go", .text "FORWARD")]))).words
          "repeat 2 [fd 10 pu]" =
        readProgram standard.words "repeat 2 [fd 10 pu]" := by
  have clean : (readProgram standard.words "repeat 2 [fd 10 pu]").errors = [] := by
    decide +kernel
  exact ⟨clean, aliases_extend_language [] [.configure (.named [(.word "go", .text "FORWARD")])] _
    clean⟩

end AliasTable

/-! ## Words for the same command -/

/-- Every word stands for a command, and no word is a number. -/
structure Keywords.Regular (keywords : Keywords) : Prop where
  canonical : keywords.Canonical
  noNumber : ∀ ⦃word kind⦄, keywords.lookup word = some kind → isNumeral word = false

/-- The second token is another word for the command that the first one names, at the same place. -/
structure Token.Respells (keywords : Keywords) (t other : Token) : Prop where
  words : t.shape = .word ∧ other.shape = .word
  command : ∃ kind, keywords.lookup t.text = some kind ∧ keywords.lookup other.text = some kind
  line : other.line = t.line
  column : other.column = t.column

section Respelling

variable {keywords : Keywords} {t other : Token}

theorem wordNumber?_of_not_numeral {word : String} (noNumber : isNumeral word = false) :
    wordNumber? word = none := by
  have unread : Literal.read? (· = 'E') word.toList = none := by simpa [isNumeral] using noNumber
  simp [wordNumber?, unread]

private theorem number?_of_keyword (regular : keywords.Regular) {kind : Kind}
    (known : keywords.lookup t.text = some kind) : t.number? = none := by
  simp [Token.number?, wordNumber?_of_not_numeral (regular.noNumber known)]

private theorem Token.Respells.alike (regular : keywords.Regular)
    (respells : t.Respells keywords other) : t.Alike keywords .still other := by
  obtain ⟨⟨word, otherWord⟩, ⟨kind, known, otherKnown⟩, line, column⟩ := respells
  have kinds : keywords.kind? t = some kind ∧ keywords.kind? other = some kind := by
    simp [Keywords.kind?, word, otherWord, known, otherKnown]
  refine ⟨⟨by rw [word, otherWord], by rw [kinds.1, kinds.2], ?_⟩, ?_, ?_, ?_⟩
  · rw [number?_of_keyword regular known, number?_of_keyword regular otherKnown]
  · exact .inr ⟨kind, kinds.1, regular.canonical _ _ known⟩
  · rw [line, column]
    rfl
  · simp only [Token.knownLine, line]
    rfl

end Respelling

theorem AliasTable.Sound.regular {t : AliasTable} (sound : t.Sound) : t.words.Regular := by
  have member : ∀ {word kind}, t.words.lookup word = some kind → (word, kind) ∈ t.words :=
    fun known => (Table.mem_iff_lookup sound.distinct _ _).mpr known
  refine ⟨fun word kind known => ?_, fun word kind known => ?_⟩
  · have canonical := sound.canonical _ (member known)
    revert canonical
    cases kind <;> simp [Kind.canonical, Kind.isCanonical]
  · exact (sound.normal _ (member known)).1.noNumber

/-- With a table that gives no name to a number and only commands to its words, the words for one
command are the same to the reader: tokens in which some of them were exchanged give the same
commands and the same complaints. Every table that is configured from the standard words is such a
table. -/
theorem keyword_spelling_is_free :
    (∀ calls, (AliasTable.standard.afterAll calls).words.Regular) ∧
    ∀ (keywords : Keywords), keywords.Regular → ∀ tokens others : List Token,
      List.Forall₂ (fun t other => other = t ∨ t.Respells keywords other) tokens others →
      readTokens keywords others = readTokens keywords tokens := by
  refine ⟨fun calls => (AliasTable.afterAll_standard_sound calls).regular, ?_⟩
  intro keywords regular tokens others respelled
  have alike : AlikeAll keywords .still tokens others := by
    refine respelled.imp ?_
    intro t other same
    rcases same with rfl | respells
    · exact alike_self keywords other
    · exact respells.alike regular
  rw [readTokens_alike alike, relocate_still]

/-- The standard words and a word of the learner's own. -/
private def ownWords : Keywords :=
  (AliasTable.standard.afterAll [.configure (.named [(.word "go", .text "FORWARD")])]).words

/-- Two words for the same movement change places: one lacks its number, and the other stands where
a count is missing. -/
theorem keyword_spelling_is_free_in_faults :
    ownWords.Regular ∧
      readTokens ownWords [⟨.word, "FD", 1, 1⟩, ⟨.word, "REPEAT", 1, 4⟩, ⟨.word, "GO", 2, 1⟩,
          ⟨.opening, "[", 2, 4⟩] =
        readTokens ownWords [⟨.word, "GO", 1, 1⟩, ⟨.word, "REPEAT", 1, 4⟩, ⟨.word, "FD", 2, 1⟩,
          ⟨.opening, "[", 2, 4⟩] := by
  have regular : ownWords.Regular := keyword_spelling_is_free.1 _
  have known : ownWords.lookup "FD" = some .forward ∧ ownWords.lookup "GO" = some .forward := by
    decide +kernel
  refine ⟨regular, keyword_spelling_is_free.2 ownWords regular _ _ ?_⟩
  exact .cons (.inr ⟨⟨rfl, rfl⟩, ⟨_, known.2, known.1⟩, rfl, rfl⟩) (.cons (.inl rfl)
    (.cons (.inr ⟨⟨rfl, rfl⟩, ⟨_, known.1, known.2⟩, rfl, rfl⟩) (.cons (.inl rfl) .nil)))

end TurtleScript
