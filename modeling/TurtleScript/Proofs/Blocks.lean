import Mathlib.Data.List.TakeWhile
import TurtleScript.Language.Reader
import TurtleScript.Proofs.Brackets
import TurtleScript.Proofs.Reading

/-!
Where a block ends. Cutting out a block counts depth and stops at the first ending; what it should
find is the bracket that matches the opening one, and that is said here by counting in the tokens
alone. Of the tokens up to the first ending either some beginning is balanced and followed by a
closing bracket, and then there is only one, or no beginning closes a bracket that it did not open.
-/
namespace TurtleScript

/-- The stream of a list of tokens from a position on. -/
def TokenStream.startingAt (tokens : List Token) (position : Nat) : TokenStream :=
  ⟨position, tokens.drop position⟩

/-- The tokens before the first ending. -/
def beforeEnding (tokens : List Token) : List Token :=
  tokens.takeWhile fun t => t.shape ≠ .ending

/-- The tokens begin with a balanced body and the bracket that closes it. -/
def ClosedAfter (tokens body : List Token) : Prop :=
  Balanced body ∧ ∃ bracket : Token, bracket.shape = .closing ∧ body ++ [bracket] <+: tokens

/-! ## The matching bracket -/

private theorem closings_snoc (tokens : List Token) (t : Token) :
    closings (tokens ++ [t]) = closings tokens + if t.shape = .closing then 1 else 0 := by
  simp [closings, List.countP_append]

private theorem openings_snoc (tokens : List Token) (t : Token) :
    openings (tokens ++ [t]) = openings tokens + if t.shape = .opening then 1 else 0 := by
  simp [openings, List.countP_append]

/-- One more token leaves no bracket unmatched, unless it closes one and all are closed already. -/
private theorem NoneUnmatched.snoc {tokens : List Token} (matched : NoneUnmatched tokens) (t : Token)
    (inside : t.shape = .closing → closings tokens ≠ openings tokens) :
    NoneUnmatched (tokens ++ [t]) := by
  intro front before
  rcases List.prefix_concat_iff.mp before with rfl | earlier
  · have total := matched tokens (List.prefix_refl tokens)
    rw [closings_snoc, openings_snoc]
    by_cases closes : t.shape = .closing
    · have strict := inside closes
      simp only [closes, if_true, reduceCtorEq, if_false]
      omega
    · rw [if_neg closes]
      omega
  · exact matched front earlier

/-- Either no bracket is closed that was not opened, or the first one that is comes after a balanced
body. The induction adds the tokens at the end. -/
private theorem noneUnmatched_or_closedAfter (tokens : List Token) :
    NoneUnmatched tokens ∨ ∃ body, ClosedAfter tokens body := by
  induction tokens using List.reverseRecOn with
  | nil =>
    refine .inl ?_
    intro front before
    rw [List.prefix_nil.mp before]
    exact Nat.le_refl _
  | append_singleton tokens t ih =>
    rcases ih with matched | ⟨body, balanced, bracket, closes, before⟩
    · by_cases outside : t.shape = .closing ∧ closings tokens = openings tokens
      · exact .inr ⟨tokens, ⟨matched, outside.2⟩, t, outside.1, List.prefix_refl _⟩
      · exact .inl (matched.snoc t fun closes even => outside ⟨closes, even⟩)
    · exact .inr ⟨body, balanced, bracket, closes, before.trans (List.prefix_append tokens [t])⟩

/-! ## Cutting out -/

private theorem beforeEnding_unended (tokens : List Token) :
    ∀ t ∈ beforeEnding tokens, t.shape ≠ .ending := by
  intro t member
  simpa using List.mem_takeWhile_imp member

/-- After the tokens before the first ending no block goes on. -/
private theorem beforeEnding_split (tokens : List Token) : ∃ rest,
    tokens = beforeEnding tokens ++ rest ∧ ∀ depth, takeBlock depth rest = ([], false, rest) := by
  induction tokens with
  | nil => exact ⟨[], rfl, fun _ => rfl⟩
  | cons t others ih =>
    by_cases ending : t.shape = .ending
    · refine ⟨t :: others, by simp [beforeEnding, ending], ?_⟩
      intro depth
      simp [takeBlock, ending]
    · obtain ⟨rest, whole, stops⟩ := ih
      have next : beforeEnding (t :: others) = t :: beforeEnding others := by
        simp [beforeEnding, ending]
      refine ⟨rest, ?_, stops⟩
      rw [next, List.cons_append, ← whole]

/-- A balanced body and the bracket after it are a block. -/
private theorem ClosedAfter.takeBlock {tokens body : List Token}
    (closed : ClosedAfter (beforeEnding tokens) body) :
    TurtleScript.takeBlock 0 tokens = (body, true, tokens.drop (body.length + 1)) := by
  obtain ⟨balanced, bracket, closes, more, front⟩ := closed
  obtain ⟨rest, whole, -⟩ := beforeEnding_split tokens
  have unended : ∀ t ∈ body, t.shape ≠ .ending := by
    intro t member
    refine beforeEnding_unended tokens t ?_
    rw [← front]
    simp [member]
  have split : tokens = body ++ bracket :: (more ++ rest) := by
    rw [whole, ← front]
    simp
  rw [split, takeBlock_passedOver closes (balanced.passedOver unended)]
  simp [← List.drop_drop]

/-- Tokens among which every closing bracket closes an inner one are a block that is not closed. -/
private theorem NoneUnmatched.takeBlock_unclosed {tokens : List Token}
    (matched : NoneUnmatched (beforeEnding tokens)) :
    TurtleScript.takeBlock 0 tokens =
      (beforeEnding tokens, false, tokens.drop (beforeEnding tokens).length) := by
  obtain ⟨rest, whole, stops⟩ := beforeEnding_split tokens
  have unended := beforeEnding_unended tokens
  generalize beforeEnding tokens = region at *
  have inside : ∀ front, front <+: region → closings front ≤ 0 + openings front := by
    intro front before
    simpa using matched front before
  have balance : 0 + openings region = openings region - closings region + closings region := by
    have total := matched region (List.prefix_refl region)
    omega
  have cut := takeBlock_inside unended inside balance rest
  rw [stops] at cut
  rw [whole, cut]
  simp

/-! ## Blocks of a list of tokens -/

/-- What is cut out of the tokens after a position is the block there. -/
private theorem block_startingAt {tokens body : List Token} {position : Nat} {closed : Bool}
    (cut : takeBlock 0 (tokens.drop (position + 1)) = (body, closed,
      (tokens.drop (position + 1)).drop (body.length + if closed then 1 else 0))) :
    (TokenStream.startingAt tokens position).block = ⟨body, closed,
      .startingAt tokens (position + 1 + body.length + if closed then 1 else 0)⟩ := by
  have inside : (TokenStream.startingAt tokens position).advance.rest =
      tokens.drop (position + 1) := List.tail_drop
  simp only [TokenStream.block]
  rw [inside, cut]
  simp only [TokenStream.startingAt, TokenStream.advance, List.drop_drop, Nat.add_assoc]

/-- A block at an opening bracket somewhere in a list of tokens. Of the tokens after the bracket and
before the first ending, a beginning that is balanced and followed by a closing bracket is the only
one; the block is that beginning, and the reader goes on after the bracket. If there is none, the
block is all of these tokens and is not closed, and the reader stands at their end. A block contains
no ending, and it is shorter than what was left to read. -/
theorem blocks_end_at_matching_bracket (keywords : Keywords) (tokens : List Token) (position : Nat)
    (errors : List Diagnostic)
    (opened : (TokenStream.startingAt tokens position).current.shape = .opening) :
    let r : Reader := ⟨keywords, .startingAt tokens position, errors⟩
    let region := beforeEnding (tokens.drop (position + 1))
    (∀ body, ClosedAfter region body →
      let next := TokenStream.startingAt tokens (position + 1 + body.length + 1)
      (∀ other, ClosedAfter region other → other = body) ∧
      r.takeBlock = (⟨body, true, next⟩, { r with stream := next })) ∧
    ((∀ body, ¬ ClosedAfter region body) →
      let next := TokenStream.startingAt tokens (position + 1 + region.length)
      r.takeBlock = (⟨region, false, next⟩, { r with stream := next })) ∧
    (∀ t ∈ r.takeBlock.1.body, t.shape ≠ .ending) ∧
    r.takeBlock.1.body.length < (tokens.drop position).length := by
  intro r region
  refine ⟨?_, ?_, block_body_unended _, block_body_lt _ opened⟩
  · intro body closed next
    have cut := closed.takeBlock
    refine ⟨?_, ?_⟩
    · intro other closedToo
      exact congrArg Prod.fst (closedToo.takeBlock.symm.trans cut)
    · have block : r.stream.block = ⟨body, true, next⟩ := block_startingAt cut
      simp only [Reader.takeBlock, block]
  · intro unclosed next
    have matched : NoneUnmatched region :=
      (noneUnmatched_or_closedAfter region).resolve_right fun ⟨body, closed⟩ => unclosed body closed
    have block : r.stream.block = ⟨region, false, next⟩ :=
      block_startingAt matched.takeBlock_unclosed
    simp only [Reader.takeBlock, block]

/-- A bracket inside a block, an ending that hides the closing bracket of another, and more. -/
private def nestedTokens : List Token :=
  [⟨.word, "PU", 1, 1⟩, ⟨.opening, "[", 1, 4⟩, ⟨.opening, "[", 1, 5⟩, ⟨.closing, "]", 1, 6⟩,
    ⟨.closing, "]", 1, 7⟩, ⟨.opening, "[", 2, 1⟩, ⟨.word, "PD", 2, 2⟩, ⟨.ending, "EOF", 0, 0⟩,
    ⟨.closing, "]", 2, 5⟩]

/-- The first block has the inner brackets in it, and the second one is never closed. -/
theorem blocks_end_at_matching_bracket_nested :
    ClosedAfter (beforeEnding (nestedTokens.drop 2))
      [⟨.opening, "[", 1, 5⟩, ⟨.closing, "]", 1, 6⟩] ∧
    (Reader.takeBlock ⟨.standard, .startingAt nestedTokens 1, []⟩).2.stream =
      .startingAt nestedTokens 5 ∧
    (Reader.takeBlock ⟨.standard, .startingAt nestedTokens 5, []⟩).1.body =
      [⟨.word, "PD", 2, 2⟩] := by
  have closed : ClosedAfter (beforeEnding (nestedTokens.drop 2))
      [⟨.opening, "[", 1, 5⟩, ⟨.closing, "]", 1, 6⟩] :=
    ⟨by decide, ⟨.closing, "]", 1, 7⟩, rfl, ⟨_, rfl⟩⟩
  have unclosed : ∀ body, ¬ ClosedAfter (beforeEnding (nestedTokens.drop 6)) body := by
    rintro body ⟨-, bracket, closes, before⟩
    have member := before.subset (List.mem_append_right body (List.mem_singleton_self bracket))
    have region : beforeEnding (nestedTokens.drop 6) = [⟨.word, "PD", 2, 2⟩] := by decide
    rw [region, List.mem_singleton] at member
    rw [member] at closes
    cases closes
  obtain ⟨first, -, -, -⟩ := blocks_end_at_matching_bracket .standard nestedTokens 1 [] rfl
  obtain ⟨-, second, -, -⟩ := blocks_end_at_matching_bracket .standard nestedTokens 5 [] rfl
  refine ⟨closed, ?_, ?_⟩
  · rw [(first _ closed).2]
    rfl
  · rw [second unclosed]
    rfl

end TurtleScript
