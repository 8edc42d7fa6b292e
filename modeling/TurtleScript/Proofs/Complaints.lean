import Mathlib.Data.List.Forall2
import TurtleScript.Proofs.Lexing
import TurtleScript.Proofs.Reading

/-!
What complaints are about. Every complaint has a token of its own, one that gives the reason for it
and whose line it names: the word or bracket that could not be read, or, for a repetition with a bad
body, the token that spoils the body, however deep it stands. The reader recovers past that token
and never goes back, so these tokens come in the order of the program, and no two complaints share
one. In a text the tokens stand on lines that do not go up, and so do the complaints.
-/
namespace TurtleScript

/-! ## One step -/

/-- The complaint is about the token: it names its line, for a reason that the token gives. -/
structure Diagnostic.Concerns (keywords : Keywords) (d : Diagnostic) (t : Token) : Prop where
  line : d.line = t.knownLine
  cause : d.cause.Concerns keywords t

/-- Each complaint is about its own one of the tokens. -/
abbrev ConcernAll (keywords : Keywords) : List Diagnostic → List Token → Prop :=
  List.Forall₂ (Diagnostic.Concerns keywords)

/-- The complaints are about tokens among the given ones, in their order. -/
def ConcernsAmong (keywords : Keywords) (tokens : List Token) (complaints : List Diagnostic) : Prop :=
  ∃ culprits, culprits.Sublist tokens ∧ ConcernAll keywords complaints culprits

section Steps

variable {keywords : Keywords} {s : TokenStream}

/-- What is read after a step. -/
private def Step.unread (step : Step) : List Token :=
  if step.stays then [] else step.next.rest

/-- What a step complains about is a token that no later step reads. -/
private theorem firstStep_concerns (more : s.atEnd = false)
    (bodies : ∀ body : List Token, body.length < s.rest.length →
      ConcernsAmong keywords body (diagnosticsOf (readSteps keywords (.ofList body)))) :
    ∃ culprits, (culprits ++ (firstStep keywords s).unread).Sublist s.rest ∧
      ConcernAll keywords (firstStep keywords s).outcome.diagnostic?.toList culprits := by
  have first : s.rest = s.current :: s.advance.rest :=
    rest_eq_current_cons (by simpa [TokenStream.atEnd] using more)
  have later : ∀ {next : TokenStream}, s.advance.Passes next →
      ([s.current] ++ next.rest).Sublist s.rest := by
    intro next passes
    rw [first]
    exact passes.sublist.cons_cons s.current
  have takes := firstStep_takes keywords s
  generalize firstStep keywords s = step at takes
  cases takes with
  | refused _ passes concerns => exact ⟨[s.current], later passes, .cons ⟨rfl, concerns⟩ .nil⟩
  | valued _ _ passes | repeated _ _ _ _ _ passes =>
    exact ⟨[], (List.sublist_cons_self _ _).trans (later passes), .nil⟩
  | plain => exact ⟨[], (List.sublist_cons_self _ _).trans (later (.refl _)), .nil⟩
  | @spoilt body first others next shorter complaints _ inside =>
    obtain ⟨culprits, among, concern⟩ := bodies body shorter
    rw [complaints] at concern
    cases concern with
    | @cons _ culprit _ rest about _ =>
      have one : [culprit].Sublist body :=
        ((List.nil_sublist rest).cons_cons culprit).trans among
      exact ⟨[culprit], (one.append_right next.rest).trans inside,
        .cons ⟨about.line, about.cause⟩ .nil⟩
  | faulted named unknown =>
    refine ⟨[s.current], ?_, .cons ⟨rfl, rfl, named, unknown⟩ .nil⟩
    rw [first]
    exact (List.nil_sublist _).cons_cons s.current

end Steps

/-! ## All steps -/

/-- The complaints of a reading are about tokens in the order of the program. The induction is on
the number of tokens, since the body of a repetition is read by itself. -/
theorem readSteps_concern (keywords : Keywords) (s : TokenStream) :
    ConcernsAmong keywords s.rest (diagnosticsOf (readSteps keywords s)) := by
  induction size : s.rest.length using Nat.strongRecOn generalizing s with
  | ind size ih =>
    subst size
    cases ended : s.atEnd with
    | true =>
      rw [readSteps, dif_pos ended]
      exact ⟨[], List.nil_sublist _, .nil⟩
    | false =>
      obtain ⟨culprits, among, concern⟩ :=
        firstStep_concerns ended fun body shorter => ih _ shorter (.ofList body) rfl
      rw [readSteps_before_end keywords ended, diagnosticsOf_cons]
      cases stays : (firstStep keywords s).stays with
      | true =>
        simp only [Step.unread, stays, if_true, List.append_nil] at among
        exact ⟨culprits, among, by simpa [diagnosticsOf] using concern⟩
      | false =>
        obtain ⟨others, amongRest, concernRest⟩ :=
          ih _ (stepCommand_next_lt keywords s _ ended stays) _ rfl
        simp only [Step.unread, stays] at among
        exact ⟨culprits ++ others, (amongRest.append_left culprits).trans among,
          List.rel_append concern concernRest⟩

private theorem ConcernAll.exists_of_mem {keywords : Keywords} {complaints : List Diagnostic}
    {culprits : List Token} (concern : ConcernAll keywords complaints culprits) {d : Diagnostic}
    (member : d ∈ complaints) : ∃ t ∈ culprits, d.Concerns keywords t := by
  induction concern with
  | nil => cases member
  | @cons _ culprit _ _ about _ ih =>
    rcases List.mem_cons.mp member with rfl | later
    · exact ⟨culprit, List.mem_cons_self, about⟩
    · obtain ⟨t, among, concerns⟩ := ih later
      exact ⟨t, List.mem_cons_of_mem culprit among, concerns⟩

theorem exists_culprit {keywords : Keywords} {tokens : List Token} {d : Diagnostic}
    (member : d ∈ (readTokens keywords tokens).errors) :
    ∃ t ∈ tokens, d.Concerns keywords t := by
  obtain ⟨culprits, among, concern⟩ := readSteps_concern keywords (.ofList tokens)
  obtain ⟨t, culprit, about⟩ := concern.exists_of_mem member
  exact ⟨t, among.subset culprit, about⟩

/-! ## Lines of a text -/

private theorem Partition.lines_ordered {cs : List Char} {offset : Nat} {pieces : List Piece}
    (partition : Partition cs offset pieces) : (∀ piece ∈ pieces, offset ≤ piece.start) ∧
      pieces.Pairwise fun piece later => piece.token.line ≤ later.token.line := by
  induction partition with
  | done => exact ⟨nofun, .nil⟩
  | @piece offset piece rest ordered skipped spelled more ih =>
    have forward := spelled.nonempty
    refine ⟨?_, .cons ?_ ih.2⟩
    · intro other member
      rcases List.mem_cons.mp member with rfl | later
      · exact ordered
      · have start := ih.1 other later
        omega
    · intro other later
      have start := ih.1 other later
      have longer : (cs.take piece.start).Sublist (cs.take other.start) :=
        (List.take_prefix_take_left (by omega)).sublist
      have count := longer.count_le '\n'
      rw [spelled.line, (more.spelled other later).line]
      simp only [Int.ofNat_eq_natCast]
      omega

theorem tokens_lines_ordered (text : String) : ((tokens text).map Token.line).Pairwise (· ≤ ·) := by
  obtain ⟨pieces, partition, lexed⟩ := lexFrom_partition (List.nil_append text.toList).symm
  have all : tokens text = pieces.map Piece.token := congrArg Prod.fst lexed
  rw [all, List.pairwise_map, List.pairwise_map]
  exact partition.lines_ordered.2

theorem knownLine_of_mem_tokens {text : String} {t : Token} (member : t ∈ tokens text) :
    t.knownLine = some t.line := by
  obtain ⟨piece, spelled, rfl⟩ := spelled_of_mem_tokens member
  have known : piece.token.line ≠ 0 := by
    rw [spelled.line, Int.ofNat_eq_natCast]
    omega
  rw [Token.knownLine, if_neg known]

/-! ## Complaints about a text -/

private theorem ConcernAll.lines {keywords : Keywords} {complaints : List Diagnostic}
    {culprits : List Token} (concern : ConcernAll keywords complaints culprits) :
    complaints.map Diagnostic.line = culprits.map Token.knownLine := by
  induction concern with
  | nil => rfl
  | cons about _ ih => rw [List.map_cons, List.map_cons, about.line, ih]

/-- Complaints about a text come in its order and name real lines, whatever the keywords stand for.
There are as many tokens as complaints, in the order of the text, such that each complaint names the
line of its token, also where it comes from inside a repetition or is about a keyword for something
that is no command; and these lines never go up. -/
theorem complaints_in_source_order (keywords : Keywords) (text : String) :
    ∃ culprits : List Token, culprits.Sublist (tokens text) ∧
      (readProgram keywords text).reports.map Report.line =
        culprits.map (fun t => some t.line) ∧
      (culprits.map Token.line).Pairwise (· ≤ ·) := by
  obtain ⟨culprits, among, concern⟩ := readSteps_concern keywords (.ofList (tokens text))
  refine ⟨culprits, among, ?_, (tokens_lines_ordered text).sublist (among.map Token.line)⟩
  have lines : (readProgram keywords text).reports.map Report.line =
      culprits.map Token.knownLine := by
    rw [Program.reports, List.map_map]
    exact concern.lines
  rw [lines]
  apply List.map_congr_left
  intro t member
  exact knownLine_of_mem_tokens (among.subset member)

/-- A word that is no command, and a repetition whose body lacks a number two lines further down. -/
example : (readProgram .standard "jump\nrepeat 2 [\nfd ]").reports.map Report.line =
    [some 1, some 3] := by decide +kernel

end TurtleScript
