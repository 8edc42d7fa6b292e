import TurtleScript.Alias.Table
import TurtleScript.Proofs.LongNumbers

/-!
What a configuration of aliases lists. An entry holds the spellings that stand in it at any depth,
and a configuration gives them to the commands that are named beside them or whose slots they are
in. It is listed from the first entry to the last, and that comes to an end at the first command
that does not exist and at the first alias that is too long to be told.
-/
namespace TurtleScript

open Text

/-! ## What a configuration spells -/

/-- A spelling is among the aliases of an entry, however deep. A key of a record is spelled as it is
shown. -/
inductive AliasEntry.Holds : AliasEntry → String → Prop
  | word (spelling : String) : Holds (.word spelling) spelling
  | item {items : List AliasEntry} {item : AliasEntry} {spelling : String}
    (inside : item ∈ items) (holds : Holds item spelling) : Holds (.group items) spelling
  | key {keys : List Value} {key : Value} {spelling : String} (inside : key ∈ keys)
    (spelled : key.shown = .ok spelling) : Holds (.record keys) spelling

namespace AliasEntry

/-- What is listed in two parts, the second after the first. -/
private theorem listed_cons {first rest : Except NumberFault (List String)}
    {spellings : List String}
    (listed : (do let own ← first; let others ← rest; return own ++ others) = .ok spellings) :
    ∃ own others, first = .ok own ∧ rest = .ok others ∧ spellings = own ++ others := by
  cases first with
  | error fault => cases listed
  | ok own =>
    cases rest with
    | error fault => cases listed
    | ok others =>
      cases listed
      exact ⟨own, others, rfl, rfl, rfl⟩

private theorem mem_shownKeys {keys : List Value} {spellings : List String}
    (listed : shownKeys keys = .ok spellings) (spelling : String) :
    spelling ∈ spellings ↔ ∃ key ∈ keys, key.shown = .ok spelling := by
  induction keys generalizing spellings with
  | nil =>
    cases listed
    simp
  | cons key rest ih =>
    rw [shownKeys] at listed
    cases first : key.shown with
    | error fault =>
      rw [first] at listed
      cases listed
    | ok own =>
      cases more : shownKeys rest with
      | error fault =>
        rw [first, more] at listed
        cases listed
      | ok others =>
        rw [first, more] at listed
        cases listed
        rw [List.mem_cons, ih more]
        simp [first, eq_comm]

mutual

theorem mem_aliases {entry : AliasEntry} {spellings : List String}
    (listed : entry.aliases = .ok spellings) (spelling : String) :
    spelling ∈ spellings ↔ entry.Holds spelling := by
  cases entry with
  | none =>
    cases listed
    exact ⟨nofun, nofun⟩
  | other =>
    cases listed
    exact ⟨nofun, nofun⟩
  | word own =>
    cases listed
    rw [List.mem_singleton]
    constructor
    · rintro rfl
      exact .word spelling
    · rintro ⟨⟩
      rfl
  | record keys =>
    rw [mem_shownKeys listed]
    constructor
    · rintro ⟨key, inside, spelled⟩
      exact .key inside spelled
    · rintro (_ | _ | ⟨inside, spelled⟩)
      exact ⟨_, inside, spelled⟩
  | group items =>
    have each : aliasesOfAll items = .ok spellings := listed
    rw [mem_aliasesOfAll each]
    constructor
    · rintro ⟨item, inside, holds⟩
      exact .item inside holds
    · rintro (_ | ⟨inside, holds⟩)
      exact ⟨_, inside, holds⟩

theorem mem_aliasesOfAll {items : List AliasEntry} {spellings : List String}
    (listed : aliasesOfAll items = .ok spellings) (spelling : String) :
    spelling ∈ spellings ↔ ∃ item ∈ items, item.Holds spelling := by
  cases items with
  | nil =>
    cases listed
    simp
  | cons first rest =>
    rw [aliasesOfAll] at listed
    obtain ⟨own, others, here, there, rfl⟩ := listed_cons listed
    rw [List.mem_append, mem_aliases here, mem_aliasesOfAll there]
    simp

end

end AliasEntry

theorem Kind.command?_eq_some_iff {name : String} {kind : Kind} :
    command? name = some kind ↔ kind ∈ canonical ∧ kind.name = name := by
  constructor
  · intro found
    exact ⟨List.mem_of_find?_eq_some found, by simpa using List.find?_some found⟩
  · rintro ⟨member, rfl⟩
    revert kind
    decide

theorem commandNamed?_eq_some_iff {value : Value} {kind : Kind} :
    commandNamed? value = some kind ↔ kind ∈ Kind.canonical ∧ value = .text kind.name := by
  cases value with
  | text name =>
    rw [commandNamed?, Kind.command?_eq_some_iff, Value.text.injEq, eq_comm (a := kind.name)]
  | _ => simp [commandNamed?]

namespace AliasConfig

/-- A configuration lists a spelling for a command: in an entry with the name of the command, or in
the slot of the command. -/
inductive Gives : AliasConfig → String → Kind → Prop
  | named {entries : List (AliasEntry × Value)} {entry : AliasEntry} {spelling : String}
    {kind : Kind} (command : kind ∈ Kind.canonical) (listed : (entry, .text kind.name) ∈ entries)
    (holds : entry.Holds spelling) : Gives (.named entries) spelling kind
  | slot {entries : List AliasEntry} {slot : Nat} {entry : AliasEntry} {spelling : String}
    {kind : Kind} (command : Kind.canonical[slot]? = some kind)
    (listed : entries[slot]? = some entry) (holds : entry.Holds spelling) :
    Gives (.slots entries) spelling kind

/-- Every entry is for a command. -/
def Proper : AliasConfig → Prop
  | named entries => ∀ entry ∈ entries, ∃ kind ∈ Kind.canonical, entry.2 = .text kind.name
  | slots entries => entries.length ≤ 9
  | unusable => False

theorem Gives.canonical {config : AliasConfig} {spelling : String} {kind : Kind}
    (gives : config.Gives spelling kind) : kind ∈ Kind.canonical := by
  cases gives with
  | named command listed holds => exact command
  | slot command listed holds => exact List.mem_of_getElem? command

/-- No key that is used as an alias is too long to be told. -/
def Short : AliasConfig → Prop
  | named entries => ∀ entry ∈ entries, ¬ entry.1.Long
  | slots entries => ∀ entry ∈ entries, ¬ entry.Long
  | unusable => True

/-! ### Listing -/

/-- An entry is listed: its command exists and its aliases can be told. -/
def Listed (entry : AliasEntry × Except AliasFault Kind) : Prop :=
  (∃ kind, entry.2 = .ok kind) ∧ ¬ entry.1.Long

section Listing

variable {entries : List (AliasEntry × Except AliasFault Kind)}

/-- What becomes of the next entry: its command is refused, an alias in it is too long, or it is
listed. -/
private theorem listedAliases_cons (entry : AliasEntry) (command : Except AliasFault Kind)
    (rest : List (AliasEntry × Except AliasFault Kind)) :
    (∃ fault, command = .error fault ∧
      listedAliases ((entry, command) :: rest) = .error fault) ∨
    ((∃ kind, command = .ok kind) ∧ entry.Long ∧
      listedAliases ((entry, command) :: rest) = .error (.number .tooLong)) ∨
    ∃ kind spellings, command = .ok kind ∧ ¬ entry.Long ∧ entry.aliases = .ok spellings ∧
      listedAliases ((entry, command) :: rest) =
        (listedAliases rest).map (spellings.map (·, kind) ++ ·) := by
  cases command with
  | error fault => exact .inl ⟨fault, rfl, rfl⟩
  | ok kind =>
    by_cases long : entry.Long
    · refine .inr (.inl ⟨⟨kind, rfl⟩, long, ?_⟩)
      rw [listedAliases, entry.aliases_told.refused long]
    · obtain ⟨spellings, told⟩ := entry.aliases_told.told long
      refine .inr (.inr ⟨kind, spellings, rfl, long, told, ?_⟩)
      rw [listedAliases, told]

private theorem listedAliases_ok_iff :
    (∃ pairs, listedAliases entries = .ok pairs) ↔ ∀ entry ∈ entries, Listed entry := by
  induction entries with
  | nil => simp [listedAliases]
  | cons first rest ih =>
    obtain ⟨entry, command⟩ := first
    rw [List.forall_mem_cons, ← ih]
    rcases listedAliases_cons entry command rest with
      ⟨fault, rfl, refused⟩ | ⟨-, long, refused⟩ | ⟨kind, spellings, rfl, short, -, onward⟩
    · simp [refused, Listed]
    · simp [refused, Listed, long]
    · rw [onward]
      cases listedAliases rest with
      | error fault => simp [Except.map]
      | ok pairs => simp [Except.map, Listed, short]

private theorem mem_listedAliases {pairs : List (String × Kind)}
    (ok : listedAliases entries = .ok pairs) (spelling : String) (kind : Kind) :
    (spelling, kind) ∈ pairs ↔ ∃ entry, (entry, .ok kind) ∈ entries ∧ entry.Holds spelling := by
  induction entries generalizing pairs with
  | nil =>
    cases ok
    simp
  | cons first rest ih =>
    obtain ⟨entry, command⟩ := first
    rcases listedAliases_cons entry command rest with
      ⟨fault, rfl, refused⟩ | ⟨-, long, refused⟩ | ⟨own, spellings, rfl, short, told, onward⟩
    · rw [refused] at ok
      cases ok
    · rw [refused] at ok
      cases ok
    · rw [onward] at ok
      cases more : listedAliases rest with
      | error fault =>
        rw [more] at ok
        cases ok
      | ok others =>
        rw [more] at ok
        cases ok
        have here : (spelling, kind) ∈ spellings.map (·, own) ↔
            entry.Holds spelling ∧ own = kind := by
          rw [← AliasEntry.mem_aliases told]
          grind
        rw [List.mem_append, here, ih more]
        grind

/-- The first thing that is wrong is complained about: what should be a command is none, or an alias
for a command is too long to be told. -/
private theorem listedAliases_error_iff (fault : AliasFault) :
    listedAliases entries = .error fault ↔
      ∃ before entry command after, entries = before ++ (entry, command) :: after ∧
        (∀ earlier ∈ before, Listed earlier) ∧
        (command = .error fault ∨
          (∃ kind, command = .ok kind) ∧ entry.Long ∧ fault = .number .tooLong) := by
  induction entries with
  | nil => simp [listedAliases]
  | cons first rest ih =>
    obtain ⟨entry, command⟩ := first
    rcases listedAliases_cons entry command rest with
      ⟨own, rfl, refused⟩ | ⟨⟨kind, rfl⟩, long, refused⟩ | ⟨kind, spellings, rfl, short, -, onward⟩
    · rw [refused, Except.error.injEq]
      constructor
      · rintro rfl
        exact ⟨[], entry, _, rest, rfl, nofun, .inl rfl⟩
      · rintro ⟨_ | ⟨earlier, before⟩, item, command, after, split, fine, wrong⟩
        · cases split
          rcases wrong with same | ⟨⟨kind, none⟩, -⟩
          · exact Except.error.inj same
          · cases none
        · cases split
          obtain ⟨⟨kind, none⟩, -⟩ := fine _ List.mem_cons_self
          cases none
    · rw [refused, Except.error.injEq]
      constructor
      · rintro rfl
        exact ⟨[], entry, _, rest, rfl, nofun, .inr ⟨⟨kind, rfl⟩, long, rfl⟩⟩
      · rintro ⟨_ | ⟨earlier, before⟩, item, command, after, split, fine, wrong⟩
        · cases split
          rcases wrong with none | ⟨-, -, same⟩
          · cases none
          · exact same.symm
        · cases split
          exact absurd long (fine _ List.mem_cons_self).2
    · have tail : listedAliases ((entry, .ok kind) :: rest) = .error fault ↔
          listedAliases rest = .error fault := by
        rw [onward]
        cases listedAliases rest <;> simp [Except.map]
      rw [tail, ih]
      constructor
      · rintro ⟨before, item, command, after, rfl, fine, wrong⟩
        refine ⟨(entry, .ok kind) :: before, item, command, after, rfl, ?_, wrong⟩
        exact List.forall_mem_cons.mpr ⟨⟨⟨kind, rfl⟩, short⟩, fine⟩
      · rintro ⟨_ | ⟨earlier, before⟩, item, command, after, split, fine, wrong⟩
        · cases split
          rcases wrong with none | ⟨-, long, -⟩
          · cases none
          · exact absurd long short
        · cases split
          exact ⟨before, item, command, after, rfl, fun e member => fine e (.tail _ member), wrong⟩

end Listing

theorem commandOf_ok_iff {name : Value} {kind : Kind} :
    commandOf name = .ok kind ↔ kind ∈ Kind.canonical ∧ name = .text kind.name := by
  rw [← commandNamed?_eq_some_iff, commandOf]
  cases commandNamed? name <;> simp

/-- What is no command is told about unless it is too long. -/
theorem commandOf_number_iff {name : Value} {fault : NumberFault} :
    commandOf name = .error (.number fault) ↔ name.Long ∧ fault = .tooLong := by
  have unknown : name.Long → commandNamed? name = none := by
    rintro (_ | _ | _) <;> rfl
  have told := name.shown_told
  rw [commandOf]
  cases found : commandNamed? name with
  | some kind =>
    have short : ¬ name.Long := fun long => by simp [unknown long] at found
    simp [short]
  | none =>
    rw [Except.error.injEq, AliasFault.ofUnknown, and_comm, ← told.error_iff]
    cases name.shown <;> simp

/-! ### Configurations -/

private theorem listed_iff {entry : AliasEntry × Value} :
    Listed (entry.1, commandOf entry.2) ↔
      (∃ kind ∈ Kind.canonical, entry.2 = .text kind.name) ∧ ¬ entry.1.Long := by
  simp only [Listed, commandOf_ok_iff]

section Slots

variable {entries : List AliasEntry}

private theorem pairs_slots (proper : (slots entries).Proper) :
    (slots entries).pairs = listedAliases (entries.zip (Kind.canonical.map .ok)) :=
  if_neg (Nat.not_lt.mpr proper)

private theorem pairs_slots_refused (unfit : ¬ (slots entries).Proper) :
    (slots entries).pairs = .error .tooManySlots :=
  if_pos (Nat.lt_of_not_le unfit)

/-- Every slot has a command. -/
private theorem slot_command {pair : AliasEntry × Except AliasFault Kind}
    (zipped : pair ∈ entries.zip (Kind.canonical.map .ok)) : ∃ kind, pair.2 = .ok kind := by
  obtain ⟨kind, -, found⟩ := List.mem_map.mp (List.of_mem_zip zipped).2
  exact ⟨kind, found.symm⟩

private theorem slots_ok_iff (proper : (slots entries).Proper) :
    (∃ pairs, (slots entries).pairs = .ok pairs) ↔ (slots entries).Short := by
  have firsts : (entries.zip (Kind.canonical.map .ok : List (Except AliasFault Kind))).map
      Prod.fst = entries := by
    rw [List.map_fst_zip]
    exact proper
  rw [pairs_slots proper, listedAliases_ok_iff]
  constructor
  · intro listed entry member
    rw [← firsts] at member
    obtain ⟨pair, inside, rfl⟩ := List.mem_map.mp member
    exact (listed pair inside).2
  · intro short pair inside
    refine ⟨slot_command inside, short pair.1 ?_⟩
    rw [← firsts]
    exact List.mem_map_of_mem inside

private theorem slots_error (proper : (slots entries).Proper) {fault : AliasFault}
    (refused : (slots entries).pairs = .error fault) :
    fault = .number .tooLong ∧ ∃ entry ∈ entries, entry.Long := by
  rw [pairs_slots proper, listedAliases_error_iff] at refused
  obtain ⟨before, item, command, after, split, -, wrong⟩ := refused
  have zipped : (item, command) ∈ entries.zip (Kind.canonical.map .ok) := by
    rw [split]
    simp
  rcases wrong with rfl | ⟨-, long, same⟩
  · obtain ⟨kind, none⟩ := slot_command zipped
    cases none
  · exact ⟨same, item, (List.of_mem_zip zipped).1, long⟩

end Slots

theorem pairs_ok_iff (config : AliasConfig) :
    (∃ pairs, config.pairs = .ok pairs) ↔ config.Proper ∧ config.Short := by
  cases config with
  | named entries =>
    rw [pairs, listedAliases_ok_iff, List.forall_mem_map]
    simp only [listed_iff, Proper, Short, ← forall_and]
  | slots entries =>
    by_cases proper : (slots entries).Proper
    · rw [slots_ok_iff proper]
      simp [proper]
    · simp [pairs_slots_refused proper, proper]
  | unusable => simp [pairs, Proper]

theorem mem_pairs {config : AliasConfig} {pairs : List (String × Kind)}
    (ok : config.pairs = .ok pairs) (spelling : String) (kind : Kind) :
    (spelling, kind) ∈ pairs ↔ config.Gives spelling kind := by
  cases config with
  | named entries =>
    rw [mem_listedAliases ok]
    constructor
    · rintro ⟨entry, listed, holds⟩
      obtain ⟨⟨entry, name⟩, member, same⟩ := List.mem_map.mp listed
      obtain ⟨rfl, command⟩ := Prod.mk.inj same
      obtain ⟨canonical, rfl⟩ := commandOf_ok_iff.mp command
      exact .named canonical member holds
    · rintro (⟨command, listed, holds⟩ | _)
      refine ⟨_, List.mem_map.mpr ⟨_, listed, ?_⟩, holds⟩
      rw [commandOf_ok_iff.mpr ⟨command, rfl⟩]
  | slots entries =>
    by_cases proper : (slots entries).Proper
    · rw [pairs_slots proper] at ok
      rw [mem_listedAliases ok]
      constructor
      · rintro ⟨entry, zipped, holds⟩
        obtain ⟨slot, found⟩ := List.mem_iff_getElem?.mp zipped
        obtain ⟨listed, named⟩ := List.getElem?_zip_eq_some.mp found
        rw [List.getElem?_map, Option.map_eq_some_iff] at named
        obtain ⟨own, named, same⟩ := named
        cases same
        exact .slot named listed holds
      · rintro (_ | ⟨command, listed, holds⟩)
        rename_i slot entry
        refine ⟨entry, List.mem_iff_getElem?.mpr ⟨slot, ?_⟩, holds⟩
        exact List.getElem?_zip_eq_some.mpr ⟨listed, by rw [List.getElem?_map, command]; rfl⟩
    · rw [pairs_slots_refused proper] at ok
      cases ok
  | unusable => cases ok

/-- The first thing that is wrong with a configuration is a number that is too long to be told: in
what should be the name of a command, or in a key that is used as an alias. -/
inductive Stumbles : AliasConfig → Prop
  | command {before after : List (AliasEntry × Value)} {entry : AliasEntry} {name : Value}
    (proper : (named before).Proper) (short : (named before).Short) (long : name.Long) :
    Stumbles (.named (before ++ (entry, name) :: after))
  | key {before after : List (AliasEntry × Value)} {entry : AliasEntry} {kind : Kind}
    (proper : (named before).Proper) (short : (named before).Short)
    (command : kind ∈ Kind.canonical) (long : entry.Long) :
    Stumbles (.named (before ++ (entry, .text kind.name) :: after))
  | slot {entries : List AliasEntry} {entry : AliasEntry} (proper : (slots entries).Proper)
    (listed : entry ∈ entries) (long : entry.Long) : Stumbles (.slots entries)

theorem Stumbles.long {entries : List (AliasEntry × Value)} (stumbles : (named entries).Stumbles) :
    ∃ entry ∈ entries, entry.1.Long ∨ entry.2.Long := by
  cases stumbles with
  | command proper short long => exact ⟨_, List.mem_append_right _ List.mem_cons_self, .inr long⟩
  | key proper short command long =>
    exact ⟨_, List.mem_append_right _ List.mem_cons_self, .inl long⟩

theorem pairs_number_iff (config : AliasConfig) (fault : NumberFault) :
    config.pairs = .error (.number fault) ↔ fault = .tooLong ∧ config.Stumbles := by
  cases config with
  | named entries =>
    rw [pairs, listedAliases_error_iff]
    constructor
    · rintro ⟨before, item, command, after, split, fine, wrong⟩
      obtain ⟨earlier, rest, rfl, rfl, tail⟩ := List.map_eq_append_iff.mp split
      obtain ⟨⟨entry, name⟩, later, rfl, shape, rfl⟩ := List.map_eq_cons_iff.mp tail
      obtain ⟨rfl, rfl⟩ := Prod.mk.inj shape
      have listed : ∀ entry ∈ earlier, _ := fun entry member =>
        listed_iff.mp (fine _ (List.mem_map_of_mem member))
      have proper : (named earlier).Proper := fun entry member => (listed entry member).1
      have short : (named earlier).Short := fun entry member => (listed entry member).2
      rcases wrong with refused | ⟨⟨kind, command⟩, long, same⟩
      · obtain ⟨long, rfl⟩ := commandOf_number_iff.mp refused
        exact ⟨rfl, .command proper short long⟩
      · obtain ⟨canonical, rfl⟩ := commandOf_ok_iff.mp command
        exact ⟨AliasFault.number.inj same, .key proper short canonical long⟩
    · rintro ⟨rfl, stumbles⟩
      have fine : ∀ {before : List (AliasEntry × Value)}, (named before).Proper →
          (named before).Short →
            ∀ entry ∈ before.map fun e => (e.1, commandOf e.2), Listed entry := by
        intro before proper short
        rw [List.forall_mem_map]
        exact fun entry member => listed_iff.mpr ⟨proper entry member, short entry member⟩
      cases stumbles with
      | command proper short long =>
        refine ⟨_, _, _, _, by rw [List.map_append, List.map_cons], fine proper short, .inl ?_⟩
        exact commandOf_number_iff.mpr ⟨long, rfl⟩
      | key proper short command long =>
        refine ⟨_, _, _, _, by rw [List.map_append, List.map_cons], fine proper short, .inr ?_⟩
        exact ⟨⟨_, commandOf_ok_iff.mpr ⟨command, rfl⟩⟩, long, rfl⟩
  | slots entries =>
    by_cases proper : (slots entries).Proper
    · constructor
      · intro refused
        obtain ⟨same, entry, listed, long⟩ := slots_error proper refused
        exact ⟨AliasFault.number.inj same, .slot proper listed long⟩
      · rintro ⟨rfl, _ | _ | ⟨-, listed, long⟩⟩
        cases outcome : (slots entries).pairs with
        | error other => rw [(slots_error proper outcome).1]
        | ok pairs => exact absurd long ((slots_ok_iff proper).mp ⟨pairs, outcome⟩ _ listed)
    · rw [pairs_slots_refused proper]
      constructor
      · exact nofun
      · rintro ⟨-, _ | _ | ⟨fits, -, -⟩⟩
        exact absurd fits proper
  | unusable =>
    constructor
    · exact nofun
    · rintro ⟨-, ⟨⟩⟩

/-- A configuration gives a word to a command. -/
def Assigns (config : AliasConfig) (word : String) (kind : Kind) : Prop :=
  ∃ spelling, config.Gives spelling kind ∧ upper (strip spelling) = word

end AliasConfig

end TurtleScript
