import TurtleScript.Language.Token

/-!
From program text to tokens. The text is a sequence of gaps and lexemes: a gap is made of blanks and
of comments, which run up to the end of their line, and a lexeme is a bracket or the longest run of
characters that do not end a word. Reading never fails, and each token is at the place of its first
character.
-/
namespace TurtleScript

open Text

/-- A line and column of a text. -/
structure Place where
  /-- The line. -/
  line : Int
  /-- The column. -/
  column : Int
deriving Repr, DecidableEq

/-- Where a text starts. -/
def Place.start : Place := ⟨1, 1⟩

/-- `CharacterStream.next`, the line and column: the place after a character. -/
def Place.step (place : Place) (c : Char) : Place :=
  if c = '\n' then ⟨place.line + 1, 1⟩ else ⟨place.line, place.column + 1⟩

/-- The place after a run of characters. -/
def Place.over (place : Place) (cs : List Char) : Place :=
  cs.foldl Place.step place

/-- `Lexer.skip_whitespace`, and `Lexer.skip_comment` inside a comment: the gap at the front of a
text and what follows it. Inside a comment everything up to the end of the line belongs to the
gap. -/
def splitGap (inComment : Bool) : List Char → List Char × List Char
  | [] => ([], [])
  | c :: rest =>
    if (inComment && c ≠ '\n') || isCommentMark c then
      let (gap, tail) := splitGap true rest
      (c :: gap, tail)
    else if isBlank c then
      let (gap, tail) := splitGap false rest
      (c :: gap, tail)
    else ([], c :: rest)

/-- `Lexer.read_word`: the word at the front of a text and what follows it. -/
def splitWord (cs : List Char) : List Char × List Char :=
  (cs.takeWhile fun c => !endsWord c, cs.dropWhile fun c => !endsWord c)

/-- Nothing is lost at a gap. -/
theorem splitGap_append (inComment : Bool) (cs : List Char) :
    (splitGap inComment cs).1 ++ (splitGap inComment cs).2 = cs := by
  induction cs generalizing inComment with
  | nil => rfl
  | cons c rest ih =>
    unfold splitGap
    split
    · simpa using ih true
    · split
      · simpa using ih false
      · rfl

/-- What follows a gap is not longer than the text. -/
theorem splitGap_length_le (inComment : Bool) (cs : List Char) :
    (splitGap inComment cs).2.length ≤ cs.length := by
  have whole := congrArg List.length (splitGap_append inComment cs)
  simp at whole
  omega

/-- Nothing is lost at a word. -/
theorem splitWord_append (cs : List Char) : (splitWord cs).1 ++ (splitWord cs).2 = cs := by
  simp [splitWord]

/-- One token, the place after it, and the text after it. -/
structure Lexeme where
  /-- The token. -/
  token : Token
  /-- The place after the token. -/
  after : Place
  /-- The text after the token. -/
  rest : List Char

/-- `Lexer.next_token`: the next token of a text that starts at a place; at the end it is the
ending. -/
def nextLexeme (place : Place) (cs : List Char) : Lexeme :=
  let gap := splitGap false cs
  let start := place.over gap.1
  match gap.2 with
  | [] => ⟨⟨.ending, "EOF", start.line, start.column⟩, start, []⟩
  | c :: rest =>
    if isBracket c then
      let text := String.singleton c
      ⟨⟨.ofText text, text, start.line, start.column⟩, start.step c, rest⟩
    else
      let tail := splitWord rest
      let word := c :: tail.1
      ⟨⟨.word, String.ofList (upperChars word), start.line, start.column⟩, start.over word, tail.2⟩

/-- Every token but the ending takes something off the text. -/
theorem nextLexeme_rest_lt (place : Place) (cs : List Char)
    (more : (nextLexeme place cs).token.shape ≠ .ending) :
    (nextLexeme place cs).rest.length < cs.length := by
  have bound := splitGap_length_le false cs
  cases gap : (splitGap false cs).2 with
  | nil => simp [nextLexeme, gap] at more
  | cons c rest =>
    have tail := congrArg List.length (splitWord_append rest)
    simp only [gap, List.length_cons, List.length_append] at bound tail
    by_cases bracket : isBracket c = true
    · simp only [nextLexeme, gap, bracket, ↓reduceIte]
      omega
    · simp only [nextLexeme, gap, bracket]
      simp only [Bool.false_eq_true, ↓reduceIte]
      omega

/-- `Lexer.tokens`: the tokens of a text that starts at a place, and the place where the text
ends. -/
def lexFrom (place : Place) (cs : List Char) : List Token × Place :=
  let lexeme := nextLexeme place cs
  if last : lexeme.token.shape = .ending then ([], lexeme.after)
  else
    have _shorter := nextLexeme_rest_lt place cs last
    let (tokens, final) := lexFrom lexeme.after lexeme.rest
    (lexeme.token :: tokens, final)
termination_by cs.length

/-- The tokens of a program text. -/
def tokens (text : String) : List Token :=
  (lexFrom .start text.toList).1

/-- `tokenize`: the texts of a program's tokens. -/
def tokenTexts (text : String) : List String :=
  (tokens text).map Token.text

/-- `bracket_depth`: how many more brackets a text opens than it closes. -/
def bracketDepth (text : String) : Int :=
  let texts := tokenTexts text
  Int.ofNat (texts.count "[") - Int.ofNat (texts.count "]")

end TurtleScript
