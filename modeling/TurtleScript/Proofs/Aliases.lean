import Mathlib.Logic.Relator
import TurtleScript.Alias.File
import TurtleScript.Proofs.AliasLists
import TurtleScript.Proofs.Casing

/-!
Configuring aliases joins two relations between words and commands: the one of the table and the one
that the configuration spells. It is done when the joined relation still gives every word one
command, and not at all otherwise. Nothing that is said here about a table depends on the order in
which a configuration lists its aliases, on how it groups them or on how often it names one.
-/
namespace TurtleScript

open Text

/-! ## Words -/

/-- A program can use a word as the name of a command. -/
structure Usable (word : String) : Prop where
  nonempty : word ≠ ""
  whole : ∀ c ∈ word.toList, isBlank c = false ∧ isBracket c = false ∧ isCommentMark c = false
  noNumber : isNumeral word = false

theorem usable_iff {word : String} :
    Usable word ↔ (word.isEmpty || word.toList.any endsWord || isNumeral word) = false := by
  constructor
  · intro usable
    have whole : word.toList.any endsWord = false := by
      rw [List.any_eq_false]
      intro c member
      obtain ⟨blank, bracket, mark⟩ := usable.whole c member
      simp [endsWord, blank, bracket, mark]
    simp [usable.nonempty, whole, usable.noNumber]
  · intro passes
    simp only [Bool.or_eq_false_iff, String.isEmpty_eq_false_iff, List.any_eq_false,
      Bool.not_eq_true] at passes
    refine ⟨passes.1.1, fun c member => ?_, passes.2⟩
    simpa [endsWord, and_assoc] using passes.1.2 c member

theorem aliasWord?_eq_some_iff {spelling word : String} :
    aliasWord? spelling = some word ↔ upper (strip spelling) = word ∧ Usable word := by
  have shape : aliasWord? spelling = some word ↔ upper (strip spelling) = word ∧
      (word.isEmpty || word.toList.any endsWord || isNumeral word) = false := by
    delta aliasWord?
    dsimp only
    generalize upper (strip spelling) = given
    split
    · rename_i refused
      constructor
      · exact nofun
      · rintro ⟨rfl, accepted⟩
        rw [accepted] at refused
        cases refused
    · rename_i accepted
      rw [Option.some.injEq]
      constructor
      · rintro rfl
        exact ⟨rfl, Bool.eq_false_iff.mpr accepted⟩
      · exact And.left
  rw [shape, usable_iff]

theorem strip_of_unblank {word : String} (unblank : ∀ c ∈ word.toList, isBlank c = false) :
    strip word = word := by
  have kept : ∀ cs : List Char, (∀ c ∈ cs, isBlank c = false) → cs.dropWhile isBlank = cs := by
    intro cs each
    cases cs with
    | nil => rfl
    | cons c rest => simp [each c (by simp)]
  have back : ∀ c ∈ word.toList.reverse, isBlank c = false :=
    fun c member => unblank c (List.mem_reverse.mp member)
  simp [strip, trimChars, kept _ unblank, kept _ back]

/-- A word that an alias is used as is the word of its own. -/
theorem aliasWord?_fixed {spelling word : String} (found : aliasWord? spelling = some word) :
    aliasWord? word = some word := by
  obtain ⟨rfl, usable⟩ := aliasWord?_eq_some_iff.mp found
  refine aliasWord?_eq_some_iff.mpr ⟨?_, usable⟩
  rw [strip_of_unblank fun c member => (usable.whole c member).1, upper_upper]

/-! ## Gathering -/

/-- Two tables that share a word have one command for it. -/
def Keywords.Agree (words fresh : Keywords) : Prop :=
  ∀ ⦃word kind other⦄, words.lookup word = some kind → fresh.lookup word = some other →
    kind = other

/-- Every alias is a word that a program can use. -/
def AllUsable (pairs : List (String × Kind)) : Prop :=
  ∀ pair ∈ pairs, Usable (upper (strip pair.1))

/-- An alias is given to a command. -/
def Names (pairs : List (String × Kind)) (word : String) (kind : Kind) : Prop :=
  ∃ spelling, (spelling, kind) ∈ pairs ∧ upper (strip spelling) = word

section Gathering

variable {words fresh gathered : Keywords} {spelling : String} {kind : Kind}
  {rest pairs : List (String × Kind)}

private theorem names_cons {word : String} {other : Kind} :
    Names ((spelling, kind) :: rest) word other ↔
      kind = other ∧ upper (strip spelling) = word ∨ Names rest word other := by
  constructor
  · rintro ⟨own, member, rfl⟩
    rcases List.mem_cons.mp member with same | later
    · cases same
      exact .inl ⟨rfl, rfl⟩
    · exact .inr ⟨own, later, rfl⟩
  · rintro (⟨rfl, rfl⟩ | ⟨own, later, rfl⟩)
    · exact ⟨spelling, by simp, rfl⟩
    · exact ⟨own, by simp [later], rfl⟩

private theorem gather_unusable (unusable : ¬ Usable (upper (strip spelling))) :
    gather words fresh ((spelling, kind) :: rest) = .error (.invalidAlias spelling) := by
  cases found : aliasWord? spelling with
  | none => simp [gather, found]
  | some word =>
    obtain ⟨rfl, usable⟩ := aliasWord?_eq_some_iff.mp found
    exact absurd usable unusable

/-- The command that a word has when the next alias is looked at. -/
private def meaning (words fresh : Keywords) (word : String) : Option Kind :=
  (fresh.lookup word).or (words.lookup word)

private theorem gather_agreeing {word : String} (found : aliasWord? spelling = some word)
    (agrees : ∀ other, meaning words fresh word = some other → other = kind) :
    gather words fresh ((spelling, kind) :: rest) =
      gather words (Table.set word kind fresh) rest := by
  have same : (meaning words fresh word).getD kind = kind := by
    cases known : meaning words fresh word with
    | none => rfl
    | some other => exact agrees other known
  simp only [meaning] at same
  simp [gather, found, same]

private theorem gather_clashing {word : String} {other : Kind}
    (found : aliasWord? spelling = some word) (known : meaning words fresh word = some other)
    (differs : other ≠ kind) :
    gather words fresh ((spelling, kind) :: rest) =
      (gather words fresh rest).map fun result =>
        (result.1, ⟨word, other, kind⟩ :: result.2) := by
  simp only [meaning] at known
  simp [gather, found, known, differs]

/-- What becomes of the next alias: it is refused, it is taken, or it collides. -/
private theorem gather_cases (words fresh : Keywords) (spelling : String) (kind : Kind) :
    ¬ Usable (upper (strip spelling)) ∨
    aliasWord? spelling = some (upper (strip spelling)) ∧
      ((∀ other, meaning words fresh (upper (strip spelling)) = some other → other = kind) ∨
        ∃ other, meaning words fresh (upper (strip spelling)) = some other ∧ other ≠ kind) := by
  by_cases usable : Usable (upper (strip spelling))
  · refine .inr ⟨aliasWord?_eq_some_iff.mpr ⟨rfl, usable⟩, ?_⟩
    by_cases agrees : ∀ other,
        meaning words fresh (upper (strip spelling)) = some other → other = kind
    · exact .inl agrees
    · obtain ⟨other, disagrees⟩ := Classical.not_forall.mp agrees
      obtain ⟨known, differs⟩ := Classical.not_imp.mp disagrees
      exact .inr ⟨other, known, differs⟩
  · exact .inl usable

theorem gather_ok_iff :
    (∃ result, gather words fresh pairs = .ok result) ↔ AllUsable pairs := by
  induction pairs generalizing fresh with
  | nil => simp [gather, AllUsable]
  | cons pair rest ih =>
    obtain ⟨spelling, kind⟩ := pair
    have tail : AllUsable ((spelling, kind) :: rest) ↔
        Usable (upper (strip spelling)) ∧ AllUsable rest := by
      simp [AllUsable]
    rw [tail]
    rcases gather_cases words fresh spelling kind with unusable | ⟨found, agrees | clash⟩
    · simp [gather_unusable unusable, unusable]
    · have usable := (aliasWord?_eq_some_iff.mp found).2
      rw [gather_agreeing found agrees, ih]
      simp [usable]
    · obtain ⟨other, known, differs⟩ := clash
      have usable := (aliasWord?_eq_some_iff.mp found).2
      rw [gather_clashing found known differs, ← @ih fresh]
      cases gather words fresh rest with
      | error fault => simp [Except.map]
      | ok result => simp [Except.map, usable]

/-- Gathering aliases fails only by an alias that cannot be used. -/
theorem gather_error {fault : AliasFault}
    (refused : gather words fresh pairs = .error fault) :
    ∃ spelling, fault = .invalidAlias spelling := by
  induction pairs generalizing fresh with
  | nil => cases refused
  | cons pair rest ih =>
    obtain ⟨spelling, kind⟩ := pair
    rcases gather_cases words fresh spelling kind with unusable | ⟨found, agrees | clash⟩
    · rw [gather_unusable unusable] at refused
      cases refused
      exact ⟨spelling, rfl⟩
    · rw [gather_agreeing found agrees] at refused
      exact ih refused
    · obtain ⟨other, known, differs⟩ := clash
      rw [gather_clashing found known differs] at refused
      cases more : gather words fresh rest with
      | ok result =>
        rw [more] at refused
        cases refused
      | error other =>
        rw [more] at refused
        cases refused
        exact ih more

/-- Aliases that are gathered without a collision are added to those gathered before. -/
theorem gather_joins (agree : words.Agree fresh)
    (done : gather words fresh pairs = .ok (gathered, [])) :
    words.Agree gathered ∧ ∀ word kind,
      gathered.lookup word = some kind ↔ fresh.lookup word = some kind ∨ Names pairs word kind := by
  induction pairs generalizing fresh with
  | nil =>
    cases done
    exact ⟨agree, fun word kind => by simp [Names]⟩
  | cons pair rest ih =>
    obtain ⟨spelling, kind⟩ := pair
    rcases gather_cases words fresh spelling kind with unusable | ⟨found, agrees | clash⟩
    · simp [gather_unusable unusable] at done
    · rw [gather_agreeing found agrees] at done
      have before : ∀ other, fresh.lookup (upper (strip spelling)) = some other → other = kind :=
        fun other known => agrees other (by simp [meaning, known])
      have still : words.Agree (Table.set (upper (strip spelling)) kind fresh) := by
        intro word old new known set
        rw [Table.lookup_set] at set
        split at set
        · rename_i same
          subst same
          cases set
          cases gatheredBefore : fresh.lookup (upper (strip spelling)) with
          | none => exact agrees old (by simp [meaning, gatheredBefore, known])
          | some other =>
            rw [agree known gatheredBefore]
            exact before other gatheredBefore
        · exact agree known set
      obtain ⟨kept, joined⟩ := ih still done
      refine ⟨kept, fun word other => ?_⟩
      rw [joined, Table.lookup_set, names_cons, ← or_assoc]
      refine or_congr_left ?_
      split
      · rename_i same
        subst same
        constructor
        · rintro ⟨⟩
          exact .inr ⟨rfl, rfl⟩
        · rintro (known | ⟨rfl, -⟩)
          · rw [before other known]
          · rfl
      · rename_i differs
        constructor
        · exact .inl
        · rintro (known | ⟨-, same⟩)
          · exact known
          · exact absurd same.symm differs
    · obtain ⟨other, known, differs⟩ := clash
      rw [gather_clashing found known differs] at done
      cases more : gather words fresh rest with
      | error fault => simp [more, Except.map] at done
      | ok result => simp [more, Except.map] at done

theorem gather_distinct {collisions : List Collision} (distinct : Table.Distinct fresh)
    (done : gather words fresh pairs = .ok (gathered, collisions)) :
    Table.Distinct gathered := by
  induction pairs generalizing fresh gathered collisions with
  | nil =>
    cases done
    exact distinct
  | cons pair rest ih =>
    obtain ⟨spelling, kind⟩ := pair
    rcases gather_cases words fresh spelling kind with unusable | ⟨found, agrees | clash⟩
    · simp [gather_unusable unusable] at done
    · rw [gather_agreeing found agrees] at done
      exact ih (Table.distinct_set distinct _ kind) done
    · obtain ⟨other, known, differs⟩ := clash
      rw [gather_clashing found known differs] at done
      cases more : gather words fresh rest with
      | error fault => simp [more, Except.map] at done
      | ok result =>
        obtain ⟨later, found⟩ := result
        simp only [more, Except.map, Except.ok.injEq, Prod.mk.injEq] at done
        rw [← done.1]
        exact ih distinct more

/-- Aliases that give every word one command are gathered without a collision. -/
theorem gather_consistent (usable : AllUsable pairs)
    (unique : Relator.RightUnique fun word kind =>
      words.lookup word = some kind ∨ fresh.lookup word = some kind ∨ Names pairs word kind) :
    ∃ gathered, gather words fresh pairs = .ok (gathered, []) := by
  induction pairs generalizing fresh with
  | nil => exact ⟨fresh, rfl⟩
  | cons pair rest ih =>
    obtain ⟨spelling, kind⟩ := pair
    have later : AllUsable rest := fun pair member => usable pair (by simp [member])
    have named : Names ((spelling, kind) :: rest) (upper (strip spelling)) kind :=
      names_cons.mpr (.inl ⟨rfl, rfl⟩)
    have agrees : ∀ other,
        meaning words fresh (upper (strip spelling)) = some other → other = kind := by
      intro other known
      rcases Option.or_eq_some_iff.mp known with gathered | ⟨-, old⟩
      · exact unique (.inr (.inl gathered)) (.inr (.inr named))
      · exact unique (.inl old) (.inr (.inr named))
    have found : aliasWord? spelling = some (upper (strip spelling)) :=
      aliasWord?_eq_some_iff.mpr ⟨rfl, usable (spelling, kind) (by simp)⟩
    rw [gather_agreeing found agrees]
    apply ih later
    -- The alias that is set is one that the given aliases name, so nothing new is said.
    have said : ∀ word other, words.lookup word = some other ∨
        (Table.set (upper (strip spelling)) kind fresh).lookup word = some other ∨
          Names rest word other →
        words.lookup word = some other ∨ fresh.lookup word = some other ∨
          Names ((spelling, kind) :: rest) word other := by
      rintro word other (old | set | more)
      · exact .inl old
      · rw [Table.lookup_set] at set
        split at set
        · rename_i same
          cases set
          exact .inr (.inr (same ▸ named))
        · exact .inr (.inl set)
      · exact .inr (.inr (names_cons.mpr (.inr more)))
    intro word one other first second
    exact unique (said word one first) (said word other second)

end Gathering

/-! ## Configuring a table -/

namespace AliasTable

/-- What a table says together with what a configuration adds to it. -/
def Joined (t : AliasTable) (config : AliasConfig) (word : String) (kind : Kind) : Prop :=
  t.words.lookup word = some kind ∨ config.Assigns word kind

/-- A configuration can be added to a table: its commands exist, its aliases can be told and used,
and no word gets two commands. -/
structure Accepts (t : AliasTable) (config : AliasConfig) : Prop where
  proper : config.Proper
  short : config.Short
  usable : ∀ word kind, config.Assigns word kind → Usable word
  unique : Relator.RightUnique (t.Joined config)

section Configuring

variable {t new : AliasTable} {config : AliasConfig} {pairs : List (String × Kind)}

private theorem names_iff_assigns (spelled : config.pairs = .ok pairs) (word : String)
    (kind : Kind) : Names pairs word kind ↔ config.Assigns word kind := by
  simp only [Names, AliasConfig.Assigns, AliasConfig.mem_pairs spelled]

private theorem allUsable_iff (spelled : config.pairs = .ok pairs) :
    AllUsable pairs ↔ ∀ word kind, config.Assigns word kind → Usable word := by
  constructor
  · intro usable word kind assigns
    obtain ⟨spelling, member, rfl⟩ := (names_iff_assigns spelled word kind).mpr assigns
    exact usable (spelling, kind) member
  · rintro usable ⟨spelling, kind⟩ member
    apply usable _ kind
    exact (names_iff_assigns spelled _ kind).mp ⟨spelling, member, rfl⟩

/-- A configuration that is added was gathered without a collision. -/
private theorem configure_gathers (done : t.configure config = .ok new) :
    ∃ pairs fresh, config.pairs = .ok pairs ∧ gather t.words [] pairs = .ok (fresh, []) ∧
      new = ⟨Table.update t.words fresh, Table.update t.listed fresh⟩ := by
  unfold configure at done
  split at done
  · cases done
  · rename_i pairs spelled
    unfold add at done
    split at done
    · cases done
    · rename_i fresh gathered
      cases done
      exact ⟨pairs, fresh, spelled, gathered, rfl⟩
    · cases done

private theorem configure_of_gathered {fresh : Keywords} (spelled : config.pairs = .ok pairs)
    (gathered : gather t.words [] pairs = .ok (fresh, [])) :
    t.configure config = .ok ⟨Table.update t.words fresh, Table.update t.listed fresh⟩ := by
  simp only [configure, spelled, add, gathered]

private theorem agree_nil (words : Keywords) : words.Agree [] := fun _ _ _ _ known => nomatch known

theorem configure_joins (done : t.configure config = .ok new) (word : String) (kind : Kind) :
    new.words.lookup word = some kind ↔ t.Joined config word kind := by
  obtain ⟨pairs, fresh, spelled, gathered, rfl⟩ := configure_gathers done
  obtain ⟨agree, joined⟩ := gather_joins (agree_nil t.words) gathered
  have distinct : Table.Distinct fresh := gather_distinct Table.distinct_nil gathered
  have fromConfig : fresh.lookup word = some kind ↔ config.Assigns word kind := by
    simpa [names_iff_assigns spelled] using joined word kind
  rw [Table.lookup_update distinct, Joined, ← fromConfig]
  constructor
  · intro found
    rcases Option.or_eq_some_iff.mp found with added | ⟨-, old⟩
    · exact .inr added
    · exact .inl old
  · rintro (old | added)
    · cases again : fresh.lookup word with
      | none => simpa using old
      | some other => simpa using (agree old again).symm
    · simp [added]

theorem configure_accepts (done : t.configure config = .ok new) : t.Accepts config := by
  obtain ⟨pairs, fresh, spelled, gathered, -⟩ := configure_gathers done
  obtain ⟨proper, short⟩ := config.pairs_ok_iff.mp ⟨pairs, spelled⟩
  refine ⟨proper, short, ?_, ?_⟩
  · exact (allUsable_iff spelled).mp (gather_ok_iff.mp ⟨(fresh, []), gathered⟩)
  · intro word one other first second
    rw [← configure_joins done] at first second
    exact Option.some.inj (first.symm.trans second)

theorem configure_of_accepts (accepts : t.Accepts config) :
    ∃ new, t.configure config = .ok new := by
  obtain ⟨pairs, spelled⟩ := config.pairs_ok_iff.mpr ⟨accepts.proper, accepts.short⟩
  have usable : AllUsable pairs := (allUsable_iff spelled).mpr accepts.usable
  have unique : Relator.RightUnique fun word kind => t.words.lookup word = some kind ∨
      List.lookup word ([] : Keywords) = some kind ∨ Names pairs word kind := by
    intro word one other first second
    simp only [names_iff_assigns spelled, List.lookup_nil, reduceCtorEq, false_or] at first second
    exact accepts.unique first second
  obtain ⟨fresh, gathered⟩ := gather_consistent usable unique
  exact ⟨_, configure_of_gathered spelled gathered⟩

/-- Where only the meanings of the words are at odds, they are listed. -/
theorem configure_collides (proper : config.Proper) (short : config.Short)
    (usable : ∀ word kind, config.Assigns word kind → Usable word)
    (clash : ¬ Relator.RightUnique (t.Joined config)) :
    ∃ found, found ≠ [] ∧ t.configure config = .error (.collisions found) := by
  obtain ⟨pairs, spelled⟩ := config.pairs_ok_iff.mpr ⟨proper, short⟩
  have gathers : ∃ result, gather t.words [] pairs = .ok result :=
    gather_ok_iff.mpr ((allUsable_iff spelled).mpr usable)
  obtain ⟨⟨fresh, found⟩, gathered⟩ := gathers
  cases found with
  | nil =>
    have done := configure_of_gathered spelled gathered
    exact absurd (configure_accepts done).unique clash
  | cons first others =>
    exact ⟨first :: others, nofun, by simp only [configure, spelled, add, gathered]⟩

/-- A number that is too long is the only thing that ends a configuration by another error than a
refusal. -/
theorem configure_number_iff {fault : NumberFault} :
    t.configure config = .error (.number fault) ↔ fault = .tooLong ∧ config.Stumbles := by
  rw [← config.pairs_number_iff]
  cases spelled : config.pairs with
  | error other => rw [configure, spelled, Except.error.injEq, Except.error.injEq]
  | ok pairs =>
    constructor
    · intro refused
      simp only [configure, spelled, add] at refused
      split at refused
      · rename_i other failed
        cases refused
        obtain ⟨spelling, none⟩ := gather_error failed
        cases none
      · cases refused
      · cases refused
    · exact nofun

end Configuring

/-! ## Sound tables -/

/-- A table is listed as it is used. It has each word once, as words are compared, and each stands
for a command with a slot. -/
structure Sound (t : AliasTable) : Prop where
  listed : t.listed = t.words
  distinct : Table.Distinct t.words
  normal : ∀ entry ∈ t.words, Usable entry.1 ∧ upper (strip entry.1) = entry.1
  canonical : ∀ entry ∈ t.words, entry.2 ∈ Kind.canonical

theorem empty_sound : empty.Sound where
  listed := rfl
  distinct := Table.distinct_nil
  normal := nofun
  canonical := nofun

theorem configure_sound {t new : AliasTable} {config : AliasConfig} (sound : t.Sound)
    (done : t.configure config = .ok new) : new.Sound := by
  have accepts := configure_accepts done
  have joins := configure_joins done
  obtain ⟨pairs, fresh, -, -, shape⟩ := configure_gathers done
  have distinct : Table.Distinct new.words := by
    rw [shape]
    exact Table.distinct_update sound.distinct fresh
  have origin : ∀ entry ∈ new.words, entry ∈ t.words ∨ config.Assigns entry.1 entry.2 := by
    rintro ⟨word, kind⟩ member
    rcases (joins word kind).mp ((Table.mem_iff_lookup distinct word kind).mp member) with
      old | added
    · exact .inl ((Table.mem_iff_lookup sound.distinct word kind).mpr old)
    · exact .inr added
  refine ⟨?_, distinct, ?_, ?_⟩
  · rw [shape, sound.listed]
  · intro entry member
    rcases origin entry member with old | added
    · exact sound.normal entry old
    · have usable := accepts.usable entry.1 entry.2 added
      obtain ⟨spelling, -, spelled⟩ := added
      have fixed := aliasWord?_fixed (aliasWord?_eq_some_iff.mpr ⟨spelled, usable⟩)
      exact ⟨usable, (aliasWord?_eq_some_iff.mp fixed).1⟩
  · intro entry member
    rcases origin entry member with old | ⟨spelling, gives, -⟩
    · exact sound.canonical entry old
    · exact gives.canonical

theorem configure_keeps {t new : AliasTable} {config : AliasConfig}
    (done : t.configure config = .ok new) {word : String} {kind : Kind}
    (known : t.words.lookup word = some kind) : new.words.lookup word = some kind :=
  (configure_joins done word kind).mpr (.inl known)

end AliasTable

/-! ## The order of entries -/

/-- Two configurations are for the same commands and give them the same words. -/
structure AliasConfig.Same (config other : AliasConfig) : Prop where
  proper : config.Proper ↔ other.Proper
  short : config.Short ↔ other.Short
  assigns : ∀ word kind, config.Assigns word kind ↔ other.Assigns word kind

theorem AliasConfig.Same.symm {config other : AliasConfig} (same : config.Same other) :
    other.Same config :=
  ⟨same.proper.symm, same.short.symm, fun word kind => (same.assigns word kind).symm⟩

theorem AliasConfig.same_of_perm {entries others : List (AliasEntry × Value)}
    (perm : entries.Perm others) : (named entries).Same (named others) := by
  have gives : ∀ {entries others : List (AliasEntry × Value)}, entries.Perm others →
      ∀ {spelling kind}, (named entries).Gives spelling kind →
        (named others).Gives spelling kind := by
    rintro entries others perm spelling kind (⟨command, listed, holds⟩ | _)
    exact .named command (perm.mem_iff.mp listed) holds
  refine ⟨?_, ?_, fun word kind => ?_⟩
  · simp only [Proper, perm.mem_iff]
  · simp only [Short, perm.mem_iff]
  · refine exists_congr fun spelling => and_congr_left fun _ => ?_
    exact ⟨gives perm, gives perm.symm⟩

/-- Two attempts come to the same: tables with the same words, or no table. -/
def SameOutcome : Except AliasFault AliasTable → Except AliasFault AliasTable → Prop
  | .ok one, .ok other => ∀ entry, entry ∈ one.words ↔ entry ∈ other.words
  | .error _, .error _ => True
  | _, _ => False

namespace AliasTable

section Same

variable {t : AliasTable} {config other : AliasConfig}

private theorem joined_same (same : config.Same other) (word : String) (kind : Kind) :
    t.Joined config word kind ↔ t.Joined other word kind :=
  or_congr_right (same.assigns word kind)

private theorem Accepts.of_same (same : config.Same other) (accepts : t.Accepts config) :
    t.Accepts other where
  proper := same.proper.mp accepts.proper
  short := same.short.mp accepts.short
  usable word kind given := accepts.usable word kind ((same.assigns word kind).mpr given)
  unique word one another first second :=
    accepts.unique ((joined_same same word one).mpr first)
      ((joined_same same word another).mpr second)

theorem configure_same (sound : t.Sound) (same : config.Same other) :
    SameOutcome (t.configure config) (t.configure other) := by
  cases first : t.configure config with
  | error fault =>
    cases second : t.configure other with
    | error fault => exact trivial
    | ok new =>
      obtain ⟨added, done⟩ := configure_of_accepts ((configure_accepts second).of_same same.symm)
      rw [first] at done
      cases done
  | ok new =>
    obtain ⟨added, done⟩ := configure_of_accepts ((configure_accepts first).of_same same)
    rw [done]
    rintro ⟨word, kind⟩
    rw [Table.mem_iff_lookup (configure_sound sound first).distinct,
      Table.mem_iff_lookup (configure_sound sound done).distinct, configure_joins first,
      configure_joins done, joined_same same]

end Same

end AliasTable

/-! ## Sequences of calls -/

/-- What is asked of a table. -/
inductive AliasCall where
  | configure (config : AliasConfig)
  | load (files : Files) (path : String)

namespace AliasTable

/-- The table after a call: a refused one leaves it as it was. -/
def after (t : AliasTable) : AliasCall → AliasTable
  | .configure config =>
    match t.configure config with
    | .ok new => new
    | .error _ => t
  | .load files path =>
    match t.load files path with
    | .ok new => new
    | .error _ => t

/-- The table after several calls. -/
def afterAll (t : AliasTable) (calls : List AliasCall) : AliasTable :=
  calls.foldl after t

theorem load_ok {t new : AliasTable} {files : Files} {path : String}
    (done : t.load files path = .ok new) : ∃ config, t.configure config = .ok new := by
  unfold load at done
  split at done
  · cases done
  · rename_i fields _
    refine ⟨.ofFields fields, ?_⟩
    cases outcome : t.configure (.ofFields fields) with
    | error fault =>
      rw [outcome] at done
      cases done
    | ok added =>
      rw [outcome] at done
      cases done
      rfl
  · cases done

/-- A call configures the table or leaves it alone. -/
theorem after_cases (t : AliasTable) (call : AliasCall) :
    t.after call = t ∨ ∃ config, t.configure config = .ok (t.after call) := by
  cases call with
  | configure config =>
    cases done : t.configure config with
    | error fault => exact .inl (by simp only [after, done])
    | ok new => exact .inr ⟨config, by simp only [after, done]⟩
  | load files path =>
    cases done : t.load files path with
    | error fault => exact .inl (by simp only [after, done])
    | ok new => simpa only [after, done] using .inr (load_ok done)

theorem afterAll_sound {t : AliasTable} (sound : t.Sound) (calls : List AliasCall) :
    (t.afterAll calls).Sound := by
  induction calls generalizing t with
  | nil => exact sound
  | cons call rest ih =>
    apply ih
    rcases t.after_cases call with same | ⟨config, done⟩
    · rw [same]
      exact sound
    · exact configure_sound sound done

theorem afterAll_keeps (t : AliasTable) (calls : List AliasCall) {word : String} {kind : Kind}
    (known : t.words.lookup word = some kind) :
    (t.afterAll calls).words.lookup word = some kind := by
  induction calls generalizing t with
  | nil => exact known
  | cons call rest ih =>
    apply ih
    rcases t.after_cases call with same | ⟨config, done⟩
    · rw [same]
      exact known
    · exact configure_keeps done known

/-- The configuration with the words that every program may use. -/
def standardConfig : AliasConfig :=
  .named (Keywords.standard.map fun entry => (.word entry.1, .text entry.2.name))

theorem configure_standard : empty.configure standardConfig = .ok standard := by
  have spelled : standardConfig.pairs = .ok Keywords.standard := rfl
  have gathers : (gather empty.words [] Keywords.standard).toOption =
      some (Keywords.standard, []) := by
    decide +kernel
  have gathered : gather empty.words [] Keywords.standard = .ok (Keywords.standard, []) := by
    cases result : gather empty.words [] Keywords.standard with
    | error fault => simp [result, Except.toOption] at gathers
    | ok result => simpa [result, Except.toOption] using gathers
  rw [configure_of_gathered spelled gathered]
  rfl

theorem afterAll_standard (calls : List AliasCall) :
    standard.afterAll calls = empty.afterAll (.configure standardConfig :: calls) := by
  have first : empty.after (.configure standardConfig) = standard := by
    simp only [after, configure_standard]
  rw [afterAll, afterAll, List.foldl_cons, first]

theorem afterAll_standard_sound (calls : List AliasCall) : (standard.afterAll calls).Sound := by
  rw [afterAll_standard]
  exact afterAll_sound empty_sound _

private theorem standard_distinct : Table.Distinct Keywords.standard := by
  unfold Table.Distinct
  decide

theorem standard_mem_afterAll (calls : List AliasCall) {entry : String × Kind}
    (member : entry ∈ Keywords.standard) : entry ∈ (standard.afterAll calls).words := by
  have known : standard.words.lookup entry.1 = some entry.2 :=
    (Table.mem_iff_lookup standard_distinct entry.1 entry.2).mp member
  exact (Table.mem_iff_lookup (afterAll_standard_sound calls).distinct entry.1 entry.2).mpr
    (afterAll_keeps standard calls known)

/-- What was added to the standard words are the entries for other words. -/
theorem mem_additions {t : AliasTable} (sound : t.Sound)
    (standard : ∀ entry ∈ Keywords.standard, entry ∈ t.words) (entry : String × Kind) :
    entry ∈ t.additions ↔ entry ∈ t.words ∧ ∀ kind, (entry.1, kind) ∉ Keywords.standard := by
  simp only [additions, List.mem_filter, decide_eq_true_eq, ne_eq,
    ← Table.mem_iff_lookup standard_distinct]
  refine and_congr_right fun member => ?_
  constructor
  · intro absent kind present
    have one := (Table.mem_iff_lookup sound.distinct entry.1 entry.2).mp member
    have other := (Table.mem_iff_lookup sound.distinct entry.1 kind).mp (standard _ present)
    have same : entry.2 = kind := Option.some.inj (one.symm.trans other)
    rw [same] at absent
    exact absent present
  · intro absent
    exact absent entry.2

/-- Whatever was asked of a table before, a configuration is added to it as a whole or not at all.
It is added exactly when it can be, and the table is then the union of what it said and of what the
configuration gives, in whatever order it gives it. Else it is refused, except that a number that is
too long to be told, where it is the first thing that is wrong, ends it by an error of its own. So a
table is listed as it is used, its words are ones that programs can use, each stands for a command
with a slot, and a word keeps its command. The standard words stay, and the additions are the
entries for other words. -/
theorem configuring_joins_relations (calls : List AliasCall) :
    let t := empty.afterAll calls
    (∀ config : AliasConfig,
      ((∃ new, t.configure config = .ok new) ↔ t.Accepts config) ∧
      (∀ new, t.configure config = .ok new →
        t.after (.configure config) = new ∧ new.listed = new.words ∧
        ∀ word kind,
          (word, kind) ∈ new.words ↔ (word, kind) ∈ t.words ∨ config.Assigns word kind) ∧
      (∀ fault, t.configure config = .error fault → t.after (.configure config) = t) ∧
      (∀ fault, t.configure config = .error (.number fault) ↔
        fault = .tooLong ∧ config.Stumbles) ∧
      (∀ other, config.Same other → SameOutcome (t.configure config) (t.configure other))) ∧
    (∀ entries others : List (AliasEntry × Value), entries.Perm others →
      SameOutcome (t.configure (.named entries)) (t.configure (.named others))) ∧
    t.Sound ∧
    (∀ entry ∈ t.listed, Kind.canonical[Kind.canonical.idxOf entry.2]? = some entry.2) ∧
    (∀ more, ∀ entry ∈ t.words, entry ∈ (t.afterAll more).words) ∧
    let u := standard.afterAll calls
    u = empty.afterAll (.configure standardConfig :: calls) ∧
    (∀ entry ∈ Keywords.standard, entry ∈ u.words) ∧
    ∀ entry, entry ∈ u.additions ↔
      entry ∈ u.words ∧ ∀ kind, (entry.1, kind) ∉ Keywords.standard := by
  intro t
  have sound : t.Sound := afterAll_sound empty_sound calls
  refine ⟨fun config => ⟨?_, ?_, ?_, fun fault => configure_number_iff, ?_⟩, ?_, sound, ?_, ?_, ?_,
    ?_, ?_⟩
  · constructor
    · rintro ⟨new, done⟩
      exact configure_accepts done
    · exact configure_of_accepts
  · intro new done
    have after := configure_sound sound done
    refine ⟨by simp only [AliasTable.after, done], after.listed, fun word kind => ?_⟩
    rw [Table.mem_iff_lookup after.distinct, Table.mem_iff_lookup sound.distinct,
      configure_joins done, Joined]
  · intro fault refused
    simp only [AliasTable.after, refused]
  · intro other same
    exact configure_same sound same
  · intro entries others perm
    exact configure_same sound (AliasConfig.same_of_perm perm)
  · intro entry member
    rw [sound.listed] at member
    have slot := List.idxOf_lt_length_of_mem (sound.canonical entry member)
    rw [List.getElem?_eq_getElem slot, List.getElem_idxOf slot]
  · rintro more ⟨word, kind⟩ member
    have later := afterAll_sound sound more
    rw [Table.mem_iff_lookup later.distinct]
    exact afterAll_keeps t more ((Table.mem_iff_lookup sound.distinct word kind).mp member)
  · exact afterAll_standard calls
  · intro entry member
    exact standard_mem_afterAll calls member
  · intro entry
    exact mem_additions (afterAll_standard_sound calls)
      (fun _ member => standard_mem_afterAll calls member) entry

/-- What should be the name of a command is a number that is too long to be told: no command has
that name, and the configuration is not refused but ends by the error of the number. -/
theorem long_command_not_refused :
    let config : AliasConfig := .named [(.word "go", .number .leastLong)]
    ¬ config.Proper ∧ standard.configure config = .error (.number .tooLong) := by
  intro config
  have stumbles : AliasConfig.Stumbles (.named ([] ++ [(.word "go", .number .leastLong)])) :=
    .command nofun nofun (.number Number.leastLong_long)
  refine ⟨fun proper => ?_, configure_number_iff.mpr ⟨rfl, stumbles⟩⟩
  obtain ⟨kind, -, named⟩ := proper _ (List.mem_singleton_self _)
  cases named

example : (standard.after (.configure (.named
    [(.group [.word "go", .group [.word " walk "]], .text "FORWARD")]))).resolve "Walk" =
      some .forward := by
  decide +kernel

end AliasTable

end TurtleScript
