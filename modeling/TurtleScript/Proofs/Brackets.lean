import Mathlib.Data.List.Infix
import TurtleScript.Proofs.Grammar

/-!
Matched brackets. Whether the brackets of tokens match is said here by counting the two sorts in
every beginning of the tokens. Cutting out a block counts depth instead, from bracket to bracket;
the two agree, so a block goes on past everything that is balanced and past everything that closes
no bracket but its own.
-/
namespace TurtleScript

/-- How many brackets tokens open. -/
def openings (tokens : List Token) : Nat :=
  tokens.countP (·.shape = .opening)

/-- How many brackets tokens close. -/
def closings (tokens : List Token) : Nat :=
  tokens.countP (·.shape = .closing)

/-- No bracket is closed that was not opened before. -/
def NoneUnmatched (tokens : List Token) : Prop :=
  ∀ front, front <+: tokens → closings front ≤ openings front

/-- Every bracket has its partner. -/
structure Balanced (tokens : List Token) : Prop where
  matched : NoneUnmatched tokens
  even : closings tokens = openings tokens

instance (tokens : List Token) : Decidable (NoneUnmatched tokens) :=
  decidable_of_iff (∀ front ∈ tokens.inits, closings front ≤ openings front)
    (by simp only [NoneUnmatched, List.mem_inits])

instance (tokens : List Token) : Decidable (Balanced tokens) :=
  decidable_of_iff (NoneUnmatched tokens ∧ closings tokens = openings tokens)
    ⟨fun ⟨matched, even⟩ => ⟨matched, even⟩, fun ⟨matched, even⟩ => ⟨matched, even⟩⟩

@[simp]
theorem openings_cons (t : Token) (tokens : List Token) :
    openings (t :: tokens) = openings tokens + if t.shape = .opening then 1 else 0 := by
  simp [openings, List.countP_cons]

@[simp]
theorem closings_cons (t : Token) (tokens : List Token) :
    closings (t :: tokens) = closings tokens + if t.shape = .closing then 1 else 0 := by
  simp [closings, List.countP_cons]

/-- A block in which `depth` brackets are open goes on past tokens of which no beginning closes all
of them, and `left` are open then. The induction is on the tokens, at every depth. -/
theorem takeBlock_inside {tokens : List Token} (unended : ∀ t ∈ tokens, t.shape ≠ .ending)
    {depth left : Nat}
    (inside : ∀ front, front <+: tokens → closings front ≤ depth + openings front)
    (balance : depth + openings tokens = left + closings tokens) (rest : List Token) :
    takeBlock depth (tokens ++ rest) =
      (tokens ++ (takeBlock left rest).1, (takeBlock left rest).2) := by
  induction tokens generalizing depth with
  | nil =>
    have same : depth = left := balance
    rw [same]
    rfl
  | cons t others ih =>
    have first := inside [t] (by simp)
    have later : ∀ front, front <+: others →
        closings (t :: front) ≤ depth + openings (t :: front) := by
      intro front before
      exact inside (t :: front) (List.cons_prefix_cons.mpr ⟨rfl, before⟩)
    have next := fun depth => @ih (fun t member => unended t (by simp [member])) depth
    simp only [openings_cons, closings_cons] at first later balance
    rw [List.cons_append]
    cases shape : t.shape with
    | ending => exact absurd shape (unended t (by simp))
    | word | other =>
      simp only [shape, reduceCtorEq, if_false, Nat.add_zero] at later balance
      simp [takeBlock, shape, next depth later balance]
    | opening =>
      simp only [shape, reduceCtorEq, if_false, if_true] at later balance
      have deeper := next (depth + 1) (fun front before => by grind) (by omega)
      simp [takeBlock, shape, deeper]
    | closing =>
      simp only [shape, reduceCtorEq, if_false, if_true, closings, openings,
        List.countP_nil] at first
      simp only [shape, reduceCtorEq, if_false, if_true] at later balance
      obtain ⟨outer, rfl⟩ : ∃ outer, depth = outer + 1 := ⟨depth - 1, by omega⟩
      have less := next outer (fun front before => by grind) (by omega)
      simp [takeBlock, shape, less]

theorem Balanced.passedOver {tokens : List Token} (balanced : Balanced tokens)
    (unended : ∀ t ∈ tokens, t.shape ≠ .ending) : PassedOver tokens := by
  intro depth rest
  refine takeBlock_inside unended ?_ ?_ rest
  · intro front before
    exact Nat.le_add_left_of_le (balanced.matched front before)
  · rw [balanced.even]

theorem NoneUnmatched.takeBlock {tokens : List Token} (matched : NoneUnmatched tokens)
    (unended : ∀ t ∈ tokens, t.shape ≠ .ending) : takeBlock 0 tokens = (tokens, false, []) := by
  have total := matched tokens (List.prefix_refl tokens)
  have inside : ∀ front, front <+: tokens → closings front ≤ 0 + openings front := by
    intro front before
    simpa using matched front before
  have balance : 0 + openings tokens = openings tokens - closings tokens + closings tokens := by
    omega
  have cut := takeBlock_inside unended inside balance []
  simpa [TurtleScript.takeBlock] using cut

end TurtleScript
