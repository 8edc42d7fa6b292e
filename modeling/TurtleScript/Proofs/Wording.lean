import TurtleScript.Proofs.Complaints
import TurtleScript.Proofs.Recovery

/-!
The wording of complaints. Inside a repetition a complaint is marked, and the mark stands once in
front of it however deep it arose. That a complaint is already marked can be told from its wording:
none of the wordings that the reader starts from begins like the mark, whatever words of the program
they quote. So what comes out of repetitions inside each other is the first wording with the mark in
front, and there are no other wordings than those and the marked ones.
-/
namespace TurtleScript

open Text

/-! ## Wordings -/

/-- What is said about a word for a repetition. -/
def repetitionWordings : List String :=
  ["REPEAT command requires a count", "REPEAT count must be a whole number between 1 and 1000",
    "REPEAT requires '[' after the count", "REPEAT is missing a closing ']'",
    "REPEAT body cannot be empty"]

/-- What is said about a token, before any mark is put in front. -/
inductive BaseWording (keywords : Keywords) (t : Token) : String → Prop
  | unmatchedClose (closing : t.shape = .closing) :
    BaseWording keywords t "Unexpected ']' without matching '['"
  | unknownCommand (unnamed : keywords.kind? t = none) :
    BaseWording keywords t ("Unknown command: " ++ t.text)
  | needsNumber {kind : Kind} (named : keywords.kind? t = some kind)
    (takesNumber : kind.takesNumber = true) :
    BaseWording keywords t (kind.name ++ " command requires a number")
  | repetition {wording : String} (named : keywords.kind? t = some .repetition)
    (among : wording ∈ repetitionWordings) : BaseWording keywords t wording
  | unknownTarget {kind : Kind} (named : keywords.kind? t = some kind)
    (unknown : kind.isCanonical = false) :
    BaseWording keywords t ("Unexpected error: " ++
      ("keyword " ++ quoted t.text ++ " maps to unknown command " ++ quoted kind.name))

/-- A wording starts with the mark. -/
def Marked (wording : String) : Prop :=
  innerMark.toList <+: wording.toList

instance (wording : String) : Decidable (Marked wording) :=
  inferInstanceAs (Decidable (innerMark.toList <+: wording.toList))

/-- A wording without the mark in front, if it has one. -/
def withoutMark (wording : String) : String :=
  if Marked wording then String.ofList (wording.toList.drop innerMark.toList.length) else wording

theorem marked_append (wording : String) : Marked (innerMark ++ wording) := by
  rw [Marked, String.toList_append]
  exact List.prefix_append _ _

theorem withoutMark_append (wording : String) : withoutMark (innerMark ++ wording) = wording := by
  rw [withoutMark, if_pos (marked_append wording), String.toList_append, List.drop_left,
    String.ofList_toList]

private theorem not_marked_of_head {wording : String}
    (other : wording.toList.head? ≠ some 'E') : ¬ Marked wording := by
  rintro ⟨rest, whole⟩
  rw [← whole] at other
  exact other rfl

private theorem not_marked_append {first : String} {c : Char} (head : first.toList.head? = some c)
    (other : c ≠ 'E') (second : String) : ¬ Marked (first ++ second) := by
  apply not_marked_of_head
  rw [String.toList_append, List.head?_append, head]
  simpa using other

theorem BaseWording.not_marked {keywords : Keywords} {t : Token} {wording : String}
    (base : BaseWording keywords t wording) : ¬ Marked wording := by
  cases base with
  | unmatchedClose => exact not_marked_of_head (by decide +kernel)
  | unknownCommand => exact not_marked_append rfl (by decide) t.text
  | @needsNumber kind _ takesNumber =>
    cases kind with
    | forward | back | left | right | color => exact not_marked_append rfl (by decide) _
    | _ => cases takesNumber
  | repetition _ among =>
    have heads : ∀ wording ∈ repetitionWordings, wording.toList.head? ≠ some 'E' := by
      decide +kernel
    exact not_marked_of_head (heads wording among)
  | unknownTarget => exact not_marked_append rfl (by decide) _

theorem Cause.Concerns.wording {keywords : Keywords} {t : Token} {cause : Cause}
    (concerns : cause.Concerns keywords t) : BaseWording keywords t cause.message := by
  cases cause with
  | unmatchedClose => exact .unmatchedClose concerns
  | unknownCommand text =>
    obtain ⟨rfl, unnamed⟩ := concerns
    exact .unknownCommand unnamed
  | needsNumber kind => exact .needsNumber concerns.1 concerns.2
  | unknownTarget word kind =>
    obtain ⟨rfl, named, unknown⟩ := concerns
    exact .unknownTarget named unknown
  | needsCount | countOutOfRange | needsOpening | missingClose | emptyBody =>
    exact .repetition concerns (by decide +kernel)

/-- `Parser.parse_repeat`, on the wording alone: what is said about a body is passed on as it is if
it starts with the mark, and with the mark in front if it does not. -/
def passedOn (wording : String) : String :=
  if Marked wording then wording else innerMark ++ wording

/-- Either way the mark stands once. -/
theorem passedOn_eq (wording : String) : passedOn wording = innerMark ++ withoutMark wording := by
  by_cases marked : Marked wording
  · obtain ⟨rest, whole⟩ := marked
    have split : wording = innerMark ++ String.ofList rest := by
      rw [← String.toList_inj, String.toList_append, String.toList_ofList, whole]
    rw [split, withoutMark_append, passedOn, if_pos (marked_append _)]
  · rw [passedOn, withoutMark, if_neg marked, if_neg marked]

/-- The flag of a complaint stands for the test of its wording: the wording starts with the mark
iff the complaint arose inside a repetition. -/
theorem Diagnostic.Concerns.marked_iff {keywords : Keywords} {d : Diagnostic} {t : Token}
    (concerns : d.Concerns keywords t) : Marked d.message ↔ d.inner = true := by
  cases inside : d.inner with
  | true =>
    have whole : d.message = innerMark ++ d.cause.message := if_pos inside
    rw [whole]
    exact iff_of_true (marked_append _) rfl
  | false =>
    have bare : d.message = d.cause.message := if_neg (by simp [inside])
    rw [bare]
    exact iff_of_false concerns.cause.wording.not_marked Bool.false_ne_true

/-- Setting the flag of a complaint passes its wording on. -/
theorem Diagnostic.Concerns.message_fromInside {keywords : Keywords} {d : Diagnostic} {t : Token}
    (concerns : d.Concerns keywords t) : d.fromInside.message = passedOn d.message := by
  have outside : d.fromInside.message = innerMark ++ d.cause.message := rfl
  by_cases inside : d.inner = true
  · have same : d.message = innerMark ++ d.cause.message := if_pos inside
    rw [passedOn, if_pos (concerns.marked_iff.mpr inside), outside, same]
  · have bare : d.message = d.cause.message := if_neg inside
    rw [passedOn, if_neg (mt concerns.marked_iff.mp inside), outside, bare]

/-- Of all that is said about a body, `fromInside` makes what the textual step makes: the wording is
passed on, and the line is kept. -/
theorem report_fromInside {keywords : Keywords} {body : List Token} {d : Diagnostic}
    (member : d ∈ (readTokens keywords body).errors) :
    d.fromInside.report = ⟨passedOn d.report.message, d.report.line⟩ := by
  obtain ⟨t, -, concerns⟩ := exists_culprit member
  exact congrArg (fun wording => Report.mk wording d.line) concerns.message_fromInside

/-! ## Repetitions inside each other -/

/-- The tokens of a repetition around a body. -/
structure Wrapper where
  word : Token
  count : Token
  opening : Token
  closing : Token

/-- A repetition whose count is in range. -/
structure Wrapper.Fits (keywords : Keywords) (w : Wrapper) : Prop where
  counted : Counted keywords w.word w.count
  opens : w.opening.shape = .opening
  closes : w.closing.shape = .closing

/-- A body with repetitions around it, the outermost first. -/
def wrapIn : List Wrapper → List Token → List Token
  | [], body => body
  | w :: inner, body => [w.word, w.count] ++ w.opening :: (wrapIn inner body ++ [w.closing])

section Wrappers

variable {keywords : Keywords} {body : List Token} {first : Diagnostic} {others : List Diagnostic}

private theorem wrapIn_passedOver {wrappers : List Wrapper}
    (fits : ∀ w ∈ wrappers, w.Fits keywords) (passes : PassedOver body) :
    PassedOver (wrapIn wrappers body) := by
  induction wrappers with
  | nil => exact passes
  | cons w inner ih =>
    obtain ⟨counted, opens, closes⟩ := fits w (by simp)
    obtain ⟨value, -, numeric, -⟩ := counted.inRange
    have inside := ih fun w member => fits w (by simp [member])
    exact passedOver_word (word_of_kind counted.named) (passedOver_word (word_of_number numeric)
      (passedOver_bracketed opens closes inside))

/-- One repetition around a body with complaints gives the first one, from inside. -/
private theorem readTokens_wrapped {w : Wrapper} (fits : w.Fits keywords) (passes : PassedOver body)
    (complaints : (readTokens keywords body).errors = first :: others) :
    readTokens keywords ([w.word, w.count] ++ w.opening :: (body ++ [w.closing])) =
      ⟨[], [first.fromInside]⟩ := by
  have refused : Refused keywords body true [w.word, w.count] first.fromInside :=
    .broken fits.counted complaints
  rw [refused.readTokens fits.opens fits.closes passes, readTokens_nil]

/-- However many repetitions stand around a body, its first complaint comes out of the outermost as
it comes out of the innermost. The induction is on the repetitions inside the outermost. -/
theorem readTokens_wrapIn {w : Wrapper} {inner : List Wrapper}
    (fits : ∀ wrapper ∈ w :: inner, wrapper.Fits keywords) (passes : PassedOver body)
    (complaints : (readTokens keywords body).errors = first :: others) :
    readTokens keywords (wrapIn (w :: inner) body) = ⟨[], [first.fromInside]⟩ := by
  induction inner generalizing w with
  | nil => exact readTokens_wrapped (fits w (by simp)) passes complaints
  | cons next rest ih =>
    have insideFits : ∀ wrapper ∈ next :: rest, wrapper.Fits keywords :=
      fun wrapper member => fits wrapper (List.mem_cons_of_mem w member)
    have inside : (readTokens keywords (wrapIn (next :: rest) body)).errors = [first.fromInside] :=
      congrArg Program.errors (ih insideFits)
    -- What came from inside is not changed by coming from inside again.
    have outside :=
      readTokens_wrapped (fits w (by simp)) (wrapIn_passedOver insideFits passes) inside
    exact outside

end Wrappers

/-! ## The wording of all complaints -/

/-- Complaints from inside repetitions are marked once. Around a balanced body with complaints, any
number of repetitions give no command and one complaint: that of the first one of the body, on its
line, and worded with the mark in front of what it says without one. And all that the reader ever
says is a wording for one of the tokens, or such a wording with the mark in front of it; the wording
itself does not start with the mark. -/
theorem inner_complaints_marked_once (keywords : Keywords) :
    (∀ (wrappers : List Wrapper) (body : List Token) (first : Report) (others : List Report),
      wrappers ≠ [] → (∀ w ∈ wrappers, w.Fits keywords) → (∀ t ∈ body, t.shape ≠ .ending) →
      Balanced body → (readTokens keywords body).reports = first :: others →
      (readTokens keywords (wrapIn wrappers body)).commands = [] ∧
        (readTokens keywords (wrapIn wrappers body)).reports =
          [⟨innerMark ++ withoutMark first.message, first.line⟩]) ∧
    ∀ (tokens : List Token), ∀ r ∈ (readTokens keywords tokens).reports,
      ∃ t ∈ tokens, ∃ base, BaseWording keywords t base ∧ ¬ Marked base ∧
        (r.message = base ∨ r.message = innerMark ++ base) := by
  refine ⟨?_, ?_⟩
  · intro wrappers body first others nonempty fits unended balanced reports
    obtain ⟨d, more, complaints, rfl, -⟩ := List.map_eq_cons_iff.mp reports
    have member : d ∈ (readTokens keywords body).errors := by simp [complaints]
    obtain ⟨w, inner, rfl⟩ := List.exists_cons_of_ne_nil nonempty
    rw [readTokens_wrapIn fits (balanced.passedOver unended) complaints, ← passedOn_eq]
    exact ⟨rfl, congrArg (fun report => [report]) (report_fromInside member)⟩
  · intro tokens r member
    obtain ⟨d, among, rfl⟩ := List.mem_map.mp member
    obtain ⟨t, culprit, concerns⟩ := exists_culprit among
    have base := concerns.cause.wording
    refine ⟨t, culprit, d.cause.message, base, base.not_marked, ?_⟩
    simp only [Diagnostic.report, Diagnostic.message]
    cases d.inner with
    | true => exact .inr rfl
    | false => exact .inl rfl

private def onceWrapper : Wrapper :=
  ⟨⟨.word, "REPEAT", 1, 1⟩, ⟨.word, "1", 1, 8⟩, ⟨.opening, "[", 1, 10⟩, ⟨.closing, "]", 4, 1⟩⟩

/-- A keyword without its number, then brackets around nothing. -/
private def shortBody : List Token :=
  [⟨.word, "FD", 2, 1⟩, ⟨.opening, "[", 3, 1⟩, ⟨.closing, "]", 3, 2⟩]

/-- Three repetitions around a body whose first complaint is about a missing number. -/
theorem inner_complaints_marked_once_in_three :
    onceWrapper.Fits .standard ∧ Balanced shortBody ∧
      (readTokens .standard (wrapIn [onceWrapper, onceWrapper, onceWrapper] shortBody)).reports =
        [⟨"Error inside REPEAT: FORWARD command requires a number", some 2⟩] := by
  have fits : onceWrapper.Fits .standard :=
    ⟨⟨rfl, 1.0, 1, by decide +kernel, by decide +kernel, by decide, by decide⟩, rfl, rfl⟩
  have balanced : Balanced shortBody := by decide
  have reports : (readTokens .standard shortBody).reports =
      [⟨"FORWARD command requires a number", some 2⟩, ⟨"Unknown command: [", some 3⟩,
        ⟨"Unexpected ']' without matching '['", some 3⟩] := by decide +kernel
  have all : ∀ w ∈ [onceWrapper, onceWrapper, onceWrapper], w.Fits .standard := by
    simp [fits]
  have marked := (inner_complaints_marked_once .standard).1 _ shortBody _ _ (by simp) all
    (by decide) balanced reports
  refine ⟨fits, balanced, marked.2.trans ?_⟩
  decide +kernel

end TurtleScript
