import Mathlib.Data.List.Induction
import TurtleScript.Alias.Table
import TurtleScript.Data.Json.Reader
import TurtleScript.Engine.Error

/-!
Numbers that are too long to be written. A diagnostic that tells about a value or a command writes
it out, and a whole number of more digits than are written makes that fail, however deep it stands.
What is said here is that nothing else does: a thing can be told exactly if no such number is in it.
Numbers that are read are never too long, so a value of a data file can always be told.
-/
namespace TurtleScript

open Text

/-- Something is told unless a number in it is too long, and the refusal says so. -/
structure ToldUnless {α : Type} (long : Prop) (outcome : Except NumberFault α) : Prop where
  refused : long → outcome = .error .tooLong
  told : ¬ long → ∃ result, outcome = .ok result

namespace ToldUnless

variable {α β : Type} {long more : Prop} {outcome : Except NumberFault α}

theorem ok (result : α) : ToldUnless False (.ok result : Except NumberFault α) where
  refused := False.elim
  told := fun _ => ⟨result, rfl⟩

theorem congr (told : ToldUnless long outcome) (same : long ↔ more) : ToldUnless more outcome where
  refused := fun isLong => told.refused (same.mpr isLong)
  told := fun isShort => told.told fun isLong => isShort (same.mp isLong)

theorem map (told : ToldUnless long outcome) (f : α → β) : ToldUnless long (outcome.map f) where
  refused := fun isLong => by rw [told.refused isLong, Except.map]
  told := fun isShort => by
    obtain ⟨result, here⟩ := told.told isShort
    exact ⟨f result, by rw [here, Except.map]⟩

/-- What is told in two parts, the second after the first. -/
theorem bind (told : ToldUnless long outcome) {next : α → Except NumberFault β}
    (onward : ∀ result, ToldUnless more (next result)) :
    ToldUnless (long ∨ more) (outcome >>= next) where
  refused := fun isLong => by
    by_cases first : long
    · rw [told.refused first]
      rfl
    · obtain ⟨result, here⟩ := told.told first
      rw [here]
      exact (onward result).refused (isLong.resolve_left first)
  told := fun isShort => by
    obtain ⟨first, second⟩ := not_or.mp isShort
    obtain ⟨result, here⟩ := told.told first
    rw [here]
    exact (onward result).told second

theorem error_iff (told : ToldUnless long outcome) (fault : NumberFault) :
    outcome = .error fault ↔ fault = .tooLong ∧ long := by
  by_cases isLong : long
  · rw [told.refused isLong, Except.error.injEq, eq_comm]
    simp [isLong]
  · obtain ⟨result, here⟩ := told.told isLong
    simp [here, isLong]

end ToldUnless

/-! ## Numbers and values -/

/-- A number has more digits than are written. -/
def Number.Long : Number → Prop
  | .whole n => tenTo maxWholeDigits ≤ n.natAbs
  | .real _ => False

/-- The least number that is too long. -/
def Number.leastLong : Number := .whole (.ofNat (tenTo maxWholeDigits))

theorem Number.long_ofNat_iff (n : Nat) :
    (Number.whole (.ofNat n)).Long ↔ tenTo maxWholeDigits ≤ n := Iff.rfl

theorem Number.leastLong_long : leastLong.Long := (long_ofNat_iff _).mpr (Nat.le_refl _)

/-- The count of a repetition is never too long. -/
theorem Number.Long.not_count {count : Int} (long : (Number.whole count).Long) :
    ¬ (1 ≤ count ∧ count ≤ 1000) := by
  have digits : tenTo 4 ≤ tenTo maxWholeDigits := tenTo_mono (by decide)
  have size : tenTo 4 ≤ count.natAbs := Nat.le_trans digits long
  have tenThousand : tenTo 4 = 10000 := rfl
  omega

/-- A number that is too long stands somewhere in a value. -/
inductive Value.Long : Value → Prop
  | number {n : Number} (long : n.Long) : Long (.number n)
  | item {items : List Value} {item : Value} (inside : item ∈ items) (long : Long item) :
    Long (.list items)
  | field {fields : List (String × Value)} {field : String × Value} (inside : field ∈ fields)
    (long : Long field.2) : Long (.record fields)

theorem wholeText_told (n : Int) : ToldUnless (Number.whole n).Long (wholeText n) := by
  constructor
  · intro long
    exact if_neg (Nat.not_lt.mpr long)
  · intro short
    exact ⟨_, if_pos (Nat.lt_of_not_le short)⟩

theorem Number.text_told (n : Number) : ToldUnless n.Long n.text := by
  cases n with
  | whole n => exact wholeText_told n
  | real x => exact .ok _

namespace Value

mutual

theorem inner_told (value : Value) : ToldUnless value.Long value.inner := by
  cases value with
  | null => exact (ToldUnless.ok _).congr ⟨False.elim, nofun⟩
  | bool truth =>
    cases truth <;> exact (ToldUnless.ok _).congr ⟨False.elim, nofun⟩
  | number n =>
    refine n.text_told.congr ⟨.number, ?_⟩
    rintro (long | _ | _)
    exact long
  | text spelling => exact (ToldUnless.ok _).congr ⟨False.elim, nofun⟩
  | list items =>
    refine ((innerItems_told items).map _).congr ⟨?_, ?_⟩
    · rintro ⟨item, inside, long⟩
      exact .item inside long
    · rintro (_ | ⟨inside, long⟩ | _)
      exact ⟨_, inside, long⟩
  | record fields =>
    refine ((innerFields_told fields).map _).congr ⟨?_, ?_⟩
    · rintro ⟨field, inside, long⟩
      exact .field inside long
    · rintro (_ | _ | ⟨inside, long⟩)
      exact ⟨_, inside, long⟩

theorem innerItems_told (items : List Value) :
    ToldUnless (∃ item ∈ items, item.Long) (innerItems items) := by
  cases items with
  | nil => exact (ToldUnless.ok _).congr (by simp)
  | cons item rest =>
    rw [innerItems]
    refine ((inner_told item).bind fun _ => (innerItems_told rest).bind fun _ => .ok _).congr ?_
    simp

theorem innerFields_told (fields : List (String × Value)) :
    ToldUnless (∃ field ∈ fields, field.2.Long) (innerFields fields) := by
  cases fields with
  | nil => exact (ToldUnless.ok _).congr (by simp)
  | cons field rest =>
    obtain ⟨name, value⟩ := field
    rw [innerFields]
    refine ((inner_told value).bind fun _ => (innerFields_told rest).bind fun _ => .ok _).congr ?_
    simp

end

/-- A value can be told exactly if no number in it is too long. -/
theorem shown_told (value : Value) : ToldUnless value.Long value.shown := by
  cases value with
  | text spelling => exact (ToldUnless.ok _).congr ⟨False.elim, nofun⟩
  | _ => exact inner_told _

end Value

/-! ## Commands -/

/-- A number that is too long stands where a listing of a command shows it: as its own value, or in
one of the first commands of its body. -/
inductive Command.Long : Command → Prop
  | value {c : Command} {n : Number} (own : c.value = some n) (long : n.Long) : Long c
  | child {c inner : Command} (first : inner ∈ c.body.take shownCount) (long : Long inner) : Long c

namespace Command

theorem shownValue_told (value : Option Number) :
    ToldUnless (∃ n, value = some n ∧ n.Long) (shownValue value) := by
  cases value with
  | none => exact (ToldUnless.ok _).congr (by simp)
  | some n => exact (n.text_told.map _).congr (by simp)

mutual

/-- A command can be told exactly if no number that is shown is too long. -/
theorem shown_told (c : Command) : ToldUnless c.Long c.shown := by
  obtain ⟨kind, value, body, line, column⟩ := c
  rw [shown]
  refine ((shownValue_told value).bind fun _ =>
    (shownFirst_told shownCount body).bind fun _ => .ok _).congr ?_
  rw [or_false]
  constructor
  · rintro (⟨n, own, long⟩ | ⟨inner, first, long⟩)
    · exact .value own long
    · exact .child first long
  · rintro (⟨own, long⟩ | ⟨first, long⟩)
    · exact .inl ⟨_, own, long⟩
    · exact .inr ⟨_, first, long⟩

theorem shownFirst_told (count : Nat) (body : List Command) :
    ToldUnless (∃ c ∈ body.take count, c.Long) (shownFirst count body) := by
  cases count with
  | zero =>
    rw [shownFirst]
    exact (ToldUnless.ok _).congr (by simp)
  | succ count =>
    cases body with
    | nil => exact (ToldUnless.ok _).congr (by simp)
    | cons c rest =>
      rw [shownFirst]
      refine ((shown_told c).bind fun _ =>
        (shownFirst_told count rest).bind fun _ => .ok _).congr ?_
      simp

end

theorem shownAll_told (commands : List Command) :
    ToldUnless (∃ c ∈ commands, c.Long) (shownAll commands) := by
  refine ((shownFirst_told commands.length commands).map _).congr ?_
  rw [List.take_length]

end Command

/-! ## Refusals of an engine -/

namespace EngineError

/-- A malformed repetition is named by its refusal, unless it cannot be told. -/
theorem malformed_cases (c : Command) :
    c.Long ∧ malformed c = .number .tooLong ∨
    ¬ c.Long ∧ ∃ shown, c.shown = .ok shown ∧ malformed c = .malformedRepeat c shown := by
  by_cases long : c.Long
  · refine .inl ⟨long, ?_⟩
    rw [malformed, c.shown_told.refused long]
  · obtain ⟨shown, told⟩ := c.shown_told.told long
    refine .inr ⟨long, shown, told, ?_⟩
    rw [malformed, told]

/-- The refusal of a number of steps tells that number and the budget, unless one of them is too
long. -/
theorem beyondBudget_cases (steps budget : Int) :
    ((Number.whole steps).Long ∨ (Number.whole budget).Long) ∧
      beyondBudget steps budget = .number .tooLong ∨
    ¬ ((Number.whole steps).Long ∨ (Number.whole budget).Long) ∧
      beyondBudget steps budget = .overBudget steps budget := by
  unfold beyondBudget
  by_cases first : (Number.whole steps).Long
  · rw [(wholeText_told steps).refused first]
    exact .inl ⟨.inl first, rfl⟩
  · obtain ⟨shown, told⟩ := (wholeText_told steps).told first
    rw [told]
    by_cases second : (Number.whole budget).Long
    · rw [(wholeText_told budget).refused second]
      exact .inl ⟨.inr second, rfl⟩
    · obtain ⟨limit, also⟩ := (wholeText_told budget).told second
      rw [also]
      exact .inr ⟨not_or.mpr ⟨first, second⟩, rfl⟩

end EngineError

/-! ## Aliases -/

/-- A number that is too long stands in a key of a record of aliases. -/
inductive AliasEntry.Long : AliasEntry → Prop
  | key {keys : List Value} {key : Value} (inside : key ∈ keys) (long : key.Long) :
    Long (.record keys)
  | item {items : List AliasEntry} {item : AliasEntry} (inside : item ∈ items) (long : Long item) :
    Long (.group items)

namespace AliasEntry

theorem shownKeys_told (keys : List Value) :
    ToldUnless (∃ key ∈ keys, key.Long) (shownKeys keys) := by
  induction keys with
  | nil => exact (ToldUnless.ok _).congr (by simp)
  | cons key rest ih =>
    rw [shownKeys]
    refine (key.shown_told.bind fun _ => ih.bind fun _ => .ok _).congr ?_
    simp

mutual

/-- The aliases of an entry can be told exactly if no key that is used as one is too long. -/
theorem aliases_told (entry : AliasEntry) : ToldUnless entry.Long entry.aliases := by
  cases entry with
  | none => exact (ToldUnless.ok _).congr ⟨False.elim, nofun⟩
  | word spelling => exact (ToldUnless.ok _).congr ⟨False.elim, nofun⟩
  | other => exact (ToldUnless.ok _).congr ⟨False.elim, nofun⟩
  | record keys =>
    refine (shownKeys_told keys).congr ⟨?_, ?_⟩
    · rintro ⟨key, inside, long⟩
      exact .key inside long
    · rintro (⟨inside, long⟩ | _)
      exact ⟨_, inside, long⟩
  | group items =>
    refine (aliasesOfAll_told items).congr ⟨?_, ?_⟩
    · rintro ⟨item, inside, long⟩
      exact .item inside long
    · rintro (_ | ⟨inside, long⟩)
      exact ⟨_, inside, long⟩

theorem aliasesOfAll_told (items : List AliasEntry) :
    ToldUnless (∃ item ∈ items, item.Long) (aliasesOfAll items) := by
  cases items with
  | nil => exact (ToldUnless.ok _).congr (by simp)
  | cons item rest =>
    rw [aliasesOfAll]
    refine ((aliases_told item).bind fun _ => (aliasesOfAll_told rest).bind fun _ => .ok _).congr ?_
    simp

end

end AliasEntry

/-! ## What is read -/

theorem digitsValue_lt {digits : List Nat} (decimal : ∀ digit ∈ digits, digit < 10) :
    digitsValue digits < tenTo digits.length := by
  induction digits using List.reverseRecOn with
  | nil => exact Nat.one_pos
  | append_singleton digits digit ih =>
    have front := ih fun other member => decimal other (List.mem_append_left _ member)
    have last := decimal digit (List.mem_append_right _ (List.mem_singleton_self _))
    rw [digitsValue_snoc, List.length_append, List.length_singleton, tenTo_succ]
    omega

theorem Literal.takeDigits_bounds (cs : List Char) :
    (takeDigits cs).1.length ≤ cs.length ∧ ∀ digit ∈ (takeDigits cs).1, digit < 10 := by
  induction cs with
  | nil => exact ⟨Nat.le_refl _, nofun⟩
  | cons c rest ih =>
    rw [takeDigits]
    cases valued : digitValue? c with
    | none => exact ⟨Nat.zero_le _, nofun⟩
    | some digit =>
      refine ⟨Nat.succ_le_succ ih.1, ?_⟩
      exact List.forall_mem_cons.mpr ⟨digitValue?_lt valued, ih.2⟩

/-- A whole number that is read is not too long to be written. -/
theorem Reading.whole_short {text : String} {n : Int} (done : whole text = .ok n) :
    ¬ (Number.whole n).Long := by
  unfold whole at done
  dsimp only at done
  split at done
  · cases done
  · cases done
  · rename_i digits _ _
    split at done
    · cases done
    · rename_i fits
      split at done
      · have bounds := Literal.takeDigits_bounds digits
        have below : digitsValue (Literal.takeDigits digits).1 < tenTo maxWholeDigits :=
          calc digitsValue (Literal.takeDigits digits).1
            _ < tenTo (Literal.takeDigits digits).1.length := digitsValue_lt bounds.2
            _ ≤ tenTo maxWholeDigits :=
              tenTo_mono (Nat.le_trans bounds.1 (Nat.le_of_not_lt fits))
        have size : n.natAbs = digitsValue (Literal.takeDigits digits).1 := by
          rw [← Except.ok.inj done]
          split
          · exact Int.natAbs_neg _
          · rfl
        intro long
        rw [Number.Long, size] at long
        omega
      · cases done

namespace Json

theorem readNumber_short {spot next : Spot} {value : Value}
    (done : readNumber spot = .ok (value, next)) : ¬ value.Long := by
  unfold readNumber at done
  extract_lets sign unsigned whole afterWhole fraction exponent length text at done
  split at done
  · cases done
  · split at done
    · split at done
      · rename_i n read
        cases done
        rintro ⟨long⟩
        exact Reading.whole_short read long
      · cases done
    · split at done
      · cases done
        rintro ⟨⟨⟩⟩
      · cases done

theorem wordValues_short {word : List Char × Value} (member : word ∈ wordValues) :
    ¬ word.2.Long := by
  simp only [wordValues, List.mem_cons, List.not_mem_nil, or_false] at member
  rcases member with rfl | rfl | rfl | rfl | rfl | rfl <;> rintro ⟨⟨⟩⟩

private theorem map_ok {α β : Type} {outcome : Except Stop α} {f : α → β} {result : β}
    (done : outcome.map f = .ok result) : ∃ inner, outcome = .ok inner ∧ f inner = result := by
  cases outcome with
  | error stop => cases done
  | ok inner => exact ⟨inner, rfl, Except.ok.inj done⟩

/-- Nothing that is read with some fuel holds a number that is too long. -/
structure ReadsShort (fuel : Nat) : Prop where
  value : ∀ {spot value next}, readValue fuel spot = .ok (value, next) → ¬ value.Long
  items : ∀ {spot items next}, readItems fuel spot = .ok (items, next) →
    ∀ item ∈ items, ¬ item.Long
  fields : ∀ {spot fields next}, readFields fuel spot = .ok (fields, next) →
    ∀ field ∈ fields, ¬ field.2.Long

theorem reads_short (fuel : Nat) : ReadsShort fuel := by
  induction fuel with
  | zero => exact ⟨nofun, nofun, nofun⟩
  | succ fuel ih =>
    refine ⟨?_, ?_, ?_⟩
    · intro spot value next done
      unfold readValue at done
      split at done
      · obtain ⟨text, -, same⟩ := map_ok done
        cases same
        nofun
      · dsimp only at done
        split at done
        · cases done
          rintro (_ | ⟨inside, -⟩ | _)
          cases inside
        · obtain ⟨items, read, same⟩ := map_ok done
          cases same
          rintro (_ | ⟨inside, long⟩ | _)
          exact ih.items read _ inside long
      · dsimp only at done
        split at done
        · cases done
          rintro (_ | _ | ⟨inside, -⟩)
          cases inside
        · obtain ⟨fields, read, same⟩ := map_ok done
          cases same
          rintro (_ | _ | ⟨inside, long⟩)
          obtain ⟨before, after, split, -⟩ := (Table.mem_ofPairs _ _).mp inside
          exact ih.fields read _ (by simp [split]) long
      · split at done
        · rename_i found
          cases done
          exact wordValues_short (List.mem_of_find?_eq_some found)
        · exact readNumber_short done
    · intro spot items next done
      unfold readItems at done
      split at done
      · cases done
      · rename_i item after first
        have here := ih.value first
        dsimp only at done
        split at done
        · cases done
          simpa using here
        · obtain ⟨others, more, same⟩ := map_ok done
          cases same
          exact List.forall_mem_cons.mpr ⟨here, ih.items more⟩
        · cases done
    · intro spot fields next done
      unfold readFields at done
      split at done
      · split at done
        · cases done
        · dsimp only at done
          split at done
          · split at done
            · cases done
            · rename_i value after first
              have here := ih.value first
              split at done
              · cases done
                simpa using here
              · obtain ⟨others, more, same⟩ := map_ok done
                cases same
                exact List.forall_mem_cons.mpr ⟨here, ih.fields more⟩
              · cases done
          · cases done
      · cases done

/-- No number in a value that is read from a text is too long to be written. -/
theorem read_short {text : String} {value : Value} (done : read text = .ok value) :
    ¬ value.Long := by
  unfold read at done
  dsimp only at done
  cases chars : readChars text.toList with
  | error stop => cases stop <;> rw [chars] at done <;> cases done
  | ok whole =>
    rw [chars] at done
    cases done
    unfold readChars at chars
    split at chars
    · cases chars
    · split at chars
      · cases chars
      · rename_i first
        dsimp only at chars
        split at chars
        · cases chars
          exact (reads_short _).value first
        · cases chars

end Json

end TurtleScript
