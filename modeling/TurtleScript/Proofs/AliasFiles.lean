import Mathlib.Data.List.DropRight
import TurtleScript.Console.Shell
import TurtleScript.Proofs.Aliases

/-!
Aliases from a record, in a file or entered by hand. The names of a record are cut at commas, and of
two names that are cut into the same parts only the later one counts: the earlier field is replaced
before anything is compared. Between fields that are not replaced, no word gets two commands. A
record that tries is refused, and the table stays as it was.
-/
namespace TurtleScript

open Text

/-! ## The parts of a name -/

theorem trimChars_trimChars (cut : Char → Bool) (cs : List Char) :
    trimChars cut (trimChars cut cs) = trimChars cut cs := by
  have front : (trimChars cut cs).dropWhile cut = trimChars cut cs := by
    -- What is left begins as the text did after its first blanks were cut.
    have prefixed : trimChars cut cs <+: cs.dropWhile cut := List.rdropWhile_prefix cut _
    apply List.dropWhile_eq_self_iff.mpr
    intro nonempty
    have inside : 0 < (cs.dropWhile cut).length := by
      have shorter := prefixed.length_le
      omega
    rw [prefixed.getElem nonempty]
    exact List.dropWhile_get_zero_not cut cs inside
  calc trimChars cut (trimChars cut cs)
    _ = (trimChars cut cs).rdropWhile cut := by rw [trimChars, front, List.rdropWhile]
    _ = trimChars cut cs := List.rdropWhile_idempotent cut _

theorem strip_of_mem_commaParts {name part : String} (member : part ∈ commaParts name) :
    strip part = part := by
  obtain ⟨cs, -, rfl⟩ := List.mem_map.mp member
  simp [strip, trimChars_trimChars]

/-! ## What a record gives -/

/-- A field of a record gives a word to a command. -/
def FieldGives (field : String × Value) (word : String) (kind : Kind) : Prop :=
  kind ∈ Kind.canonical ∧ field.2 = .text kind.name ∧ ∃ part ∈ commaParts field.1, upper part = word

/-- A field of a record is not replaced: no later name has the same parts. -/
def Survives (fields : List (String × Value)) (field : String × Value) : Prop :=
  ∃ before after, fields = before ++ field :: after ∧
    ∀ later ∈ after, commaParts later.1 ≠ commaParts field.1

theorem Survives.mem {fields : List (String × Value)} {field : String × Value}
    (survives : Survives fields field) : field ∈ fields := by
  obtain ⟨before, after, rfl, -⟩ := survives
  simp

/-- The entries of a record's configuration are those of its fields that are not replaced. -/
theorem mem_ofFields (fields : List (String × Value)) (entry : AliasEntry × Value) :
    entry ∈ (Table.ofPairs (fields.map fun field =>
        (AliasKey.group (commaParts field.1), field.2))).map (fun pair => (pair.1.entry, pair.2)) ↔
      ∃ field, Survives fields field ∧
        entry = (.group ((commaParts field.1).map .word), field.2) := by
  simp only [List.mem_map, Table.mem_ofPairs]
  constructor
  · rintro ⟨pair, ⟨before, after, split, unchanged⟩, rfl⟩
    obtain ⟨earlier, rest, rfl, -, tail⟩ := List.map_eq_append_iff.mp split
    obtain ⟨field, later, rfl, rfl, rfl⟩ := List.map_eq_cons_iff.mp tail
    refine ⟨field, ⟨earlier, later, rfl, fun other member same => ?_⟩, rfl⟩
    exact unchanged _ (List.mem_map.mpr ⟨other, member, rfl⟩) (by rw [same])
  · rintro ⟨field, ⟨before, after, rfl, unchanged⟩, rfl⟩
    refine ⟨(.group (commaParts field.1), field.2), ?_, rfl⟩
    refine ⟨_, _, List.map_append.trans (by rw [List.map_cons]), ?_⟩
    intro later member same
    obtain ⟨other, inside, rfl⟩ := List.mem_map.mp member
    exact unchanged other inside (AliasKey.group.inj same)

theorem holds_group_iff {parts : List String} {spelling : String} :
    (AliasEntry.group (parts.map .word)).Holds spelling ↔ spelling ∈ parts := by
  constructor
  · rintro (_ | ⟨inside, holds⟩ | _)
    obtain ⟨part, member, rfl⟩ := List.mem_map.mp inside
    cases holds
    exact member
  · intro member
    exact .item (List.mem_map.mpr ⟨spelling, member, rfl⟩) (.word spelling)

theorem assigns_ofFields_iff {fields : List (String × Value)} {word : String} {kind : Kind} :
    (AliasConfig.ofFields fields).Assigns word kind ↔
      ∃ field, Survives fields field ∧ FieldGives field word kind := by
  constructor
  · rintro ⟨spelling, ⟨command, listed, holds⟩ | _, rfl⟩
    obtain ⟨field, survives, same⟩ := (mem_ofFields fields _).mp listed
    obtain ⟨rfl, value⟩ := Prod.mk.inj same
    have member := holds_group_iff.mp holds
    refine ⟨field, survives, command, value.symm, spelling, member, ?_⟩
    rw [strip_of_mem_commaParts member]
  · rintro ⟨field, survives, command, value, part, member, rfl⟩
    refine ⟨part, .named command ((mem_ofFields fields _).mpr ⟨field, survives, ?_⟩)
      (holds_group_iff.mpr member), ?_⟩
    · rw [value]
    · rw [strip_of_mem_commaParts member]

theorem proper_ofFields {fields : List (String × Value)}
    (named : ∀ field ∈ fields, ∃ kind ∈ Kind.canonical, field.2 = .text kind.name) :
    (AliasConfig.ofFields fields).Proper := by
  intro entry listed
  obtain ⟨field, survives, rfl⟩ := (mem_ofFields fields entry).mp listed
  exact named field survives.mem

theorem short_ofFields (fields : List (String × Value)) : (AliasConfig.ofFields fields).Short := by
  intro entry listed
  obtain ⟨field, survives, rfl⟩ := (mem_ofFields fields entry).mp listed
  rintro (_ | ⟨inside, long⟩)
  obtain ⟨part, -, rfl⟩ := List.mem_map.mp inside
  cases long

theorem readValue_short {files : Files} {path : String} {value : Value}
    (done : files.readValue path = .ok value) : ¬ value.Long := by
  unfold Files.readValue at done
  split at done
  · cases done
  · rename_i text _
    cases read : Json.read text with
    | error fault =>
      rw [read] at done
      cases done
    | ok inner =>
      rw [read] at done
      cases done
      exact Json.read_short read

/-- A record that is read is refused or added: no number in it is too long to be told. -/
theorem not_stumbles_ofFields {fields : List (String × Value)}
    (short : ¬ (Value.record fields).Long) : ¬ (AliasConfig.ofFields fields).Stumbles := by
  intro stumbles
  obtain ⟨entry, listed, long⟩ := stumbles.long
  rcases long with key | command
  · exact short_ofFields fields entry listed key
  · obtain ⟨field, survives, rfl⟩ := (mem_ofFields fields entry).mp listed
    exact short (.field survives.mem command)

/-! ## Clashes -/

/-- A record with clashing fields that are not replaced is refused in every way it can be given:
loading it fails by a refusal, the shell prints why and goes on with the aliases it had, and where
everything else about the record is right the clashes are listed. -/
theorem clashing_fields_refused {t : AliasTable} {fields : List (String × Value)}
    {one other : String × Value} {word : String} {kind different : Kind}
    (first : Survives fields one) (second : Survives fields other)
    (gives : FieldGives one word kind) (clashes : FieldGives other word different)
    (differs : kind ≠ different) :
    ∃ fault, t.configure (.ofFields fields) = .error fault ∧
      (∀ (files : Files) (path : String), files.readValue path = .ok (.record fields) →
        t.load files path = .error (.refused fault) ∧ (∀ number, fault ≠ .number number) ∧
          t.after (.load files path) = t) ∧
      (∀ (s : Shell) (text json : String), s.aliases = t → Wish.ofText text = .addAliases json →
        Json.read json = .ok (.record fields) →
        (∀ number, fault ≠ .number number) ∧
        s.fulfil (.ofText text) =
          ⟨.lines ("[error] >>> Failed to configure sugar aliases:" :: fault.message ::
            fault.conflicts.map (" - " ++ ·)), s, none⟩) ∧
      ((∀ field ∈ fields, ∃ kind ∈ Kind.canonical, field.2 = .text kind.name) →
        (∀ field ∈ fields, ∀ part ∈ commaParts field.1, Usable (upper part)) →
        fault.conflicts ≠ []) := by
  have clash : ¬ Relator.RightUnique (t.Joined (.ofFields fields)) := by
    intro unique
    have this : t.Joined (.ofFields fields) word kind :=
      .inr (assigns_ofFields_iff.mpr ⟨one, first, gives⟩)
    have that : t.Joined (.ofFields fields) word different :=
      .inr (assigns_ofFields_iff.mpr ⟨other, second, clashes⟩)
    exact differs (unique this that)
  cases outcome : t.configure (.ofFields fields) with
  | ok new => exact absurd (AliasTable.configure_accepts outcome).unique clash
  | error fault =>
    have told : ¬ (Value.record fields).Long → ∀ number, fault ≠ .number number := by
      rintro short number rfl
      exact not_stumbles_ofFields short (AliasTable.configure_number_iff.mp outcome).2
    refine ⟨fault, rfl, ?_, ?_, ?_⟩
    · intro files path read
      have refused : t.load files path = .error (.refused fault) := by
        simp only [AliasTable.load, read, outcome]
        rfl
      exact ⟨refused, told (readValue_short read), by simp only [AliasTable.after, refused]⟩
    · rintro s text json rfl wish read
      have added : Shell.addAliases s.aliases json = .error (.refused fault) := by
        simp only [Shell.addAliases, read, outcome]
        rfl
      refine ⟨told (Json.read_short read), ?_⟩
      simp only [wish, Shell.fulfil, Shell.configure, added, Shell.SugarFault.lines]
    · intro named usable
      have usable : ∀ word kind, (AliasConfig.ofFields fields).Assigns word kind → Usable word := by
        intro word kind assigns
        obtain ⟨field, survives, -, -, part, member, rfl⟩ := assigns_ofFields_iff.mp assigns
        exact usable field survives.mem part member
      obtain ⟨found, nonempty, refused⟩ :=
        AliasTable.configure_collides (proper_ofFields named) (short_ofFields fields) usable clash
      cases refused.symm.trans outcome
      simpa [AliasFault.conflicts] using nonempty

/-- Two groups share an alias. -/
theorem clashing_groups_refused :
    ∃ fault, AliasTable.standard.configure
        (.ofFields [("go", .text "FORWARD"), ("walk, Go", .text "BACK")]) = .error fault ∧
      fault.conflicts ≠ [] := by
  have parts : commaParts "go" = ["go"] ∧ commaParts "walk, Go" = ["walk", "Go"] := by
    decide +kernel
  have words : upper "go" = "GO" ∧ upper "Go" = "GO" ∧ upper "walk" = "WALK" := by decide +kernel
  have usable : Usable "GO" ∧ Usable "WALK" := by
    simp only [usable_iff]
    decide +kernel
  have first : Survives [("go", .text "FORWARD"), ("walk, Go", .text "BACK")]
      ("go", .text "FORWARD") := ⟨[], [("walk, Go", .text "BACK")], rfl, by simp [parts]⟩
  have second : Survives [("go", .text "FORWARD"), ("walk, Go", .text "BACK")]
      ("walk, Go", .text "BACK") := ⟨[("go", .text "FORWARD")], [], rfl, by simp⟩
  have gives : FieldGives ("go", .text "FORWARD") "GO" .forward :=
    ⟨by decide, rfl, "go", by simp [parts], words.1⟩
  have clashes : FieldGives ("walk, Go", .text "BACK") "GO" .back :=
    ⟨by decide, rfl, "Go", by simp [parts], words.2.1⟩
  obtain ⟨fault, refused, -, -, listed⟩ :=
    clashing_fields_refused (t := .standard) first second gives clashes (by decide)
  refine ⟨fault, refused, listed ?_ ?_⟩
  · intro field member
    simp only [List.mem_cons, List.not_mem_nil, or_false] at member
    rcases member with rfl | rfl
    · exact ⟨.forward, by decide, rfl⟩
    · exact ⟨.back, by decide, rfl⟩
  · simp [parts, words, usable]

/-- A name is given in two spellings that have the same parts. The record gives the alias two
commands and is accepted, and the later command counts. -/
theorem respelled_clash_accepted :
    let files : Files := fun _ =>
      .ok ("\x7b\"go\": \"FORWARD\", \" go\": \"BACK\"\x7d".toUTF8.toList.map UInt8.toNat)
    ((files.readValue "sugar.json").toOption.bind fun value => value.shown.toOption) =
      some "\x7b'go': 'FORWARD', ' go': 'BACK'\x7d" ∧
    FieldGives ("go", .text "FORWARD") "GO" .forward ∧ FieldGives (" go", .text "BACK") "GO" .back ∧
    ∃ new, AliasTable.standard.load files "sugar.json" = .ok new ∧
      new.resolve "go" = some .back := by
  intro files
  have parts : commaParts "go" = ["go"] ∧ commaParts " go" = ["go"] := by decide +kernel
  have word : upper "go" = "GO" := by decide +kernel
  have loaded : (AliasTable.standard.load files "sugar.json").toOption.map (·.resolve "go") =
      some (some .back) := by
    decide +kernel
  refine ⟨by decide +kernel, ?_, ?_, ?_⟩
  · exact ⟨by decide, rfl, "go", by simp [parts], word⟩
  · exact ⟨by decide, rfl, "go", by simp [parts], word⟩
  · cases outcome : AliasTable.standard.load files "sugar.json" with
    | error fault => simp [outcome, Except.toOption] at loaded
    | ok new => exact ⟨new, rfl, by simpa [outcome, Except.toOption] using loaded⟩

end TurtleScript
