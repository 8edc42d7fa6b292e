/-!
Tables from keys to values as lists of pairs. Setting a key that is there changes its value in
place, any other key goes to the end, so a table keeps the order in which its keys were first given
and holds each key once.
-/
namespace TurtleScript.Table

/-- Sets the value of a key. -/
def set {κ α : Type} [DecidableEq κ] (key : κ) (value : α) : List (κ × α) → List (κ × α)
  | [] => [(key, value)]
  | (other, old) :: rest =>
    if other = key then (key, value) :: rest else (other, old) :: set key value rest

/-- A table after the pairs of another one have been set in it. -/
def update {κ α : Type} [DecidableEq κ] (table changes : List (κ × α)) : List (κ × α) :=
  changes.foldl (fun table pair => set pair.1 pair.2 table) table

/-- The table of pairs given one after the other: the last value of a key counts. -/
def ofPairs {κ α : Type} [DecidableEq κ] (pairs : List (κ × α)) : List (κ × α) :=
  update [] pairs

/-- Setting a name changes what is found under that name and nothing else. -/
theorem lookup_set {α : Type} (name other : String) (value : α) (table : List (String × α)) :
    (set name value table).lookup other =
      if other = name then some value else table.lookup other := by
  induction table with
  | nil =>
    by_cases same : other = name
    · simp [set, same]
    · have differs : (other == name) = false := by simpa using same
      simp [set, List.lookup_cons, same, differs]
  | cons pair rest ih =>
    obtain ⟨key, old⟩ := pair
    by_cases found : key = name
    · subst found
      by_cases same : other = key
      · simp [set, same]
      · have differs : (other == key) = false := by simpa using same
        simp [set, List.lookup_cons, same, differs]
    · by_cases same : other = key
      · subst same
        simp [set, found]
      · have differs : (other == key) = false := by simpa using same
        simp [set, found, List.lookup_cons, differs, ih]

/-! ## What is in a table -/

section Keys

variable {κ α : Type}

/-- Every key of a table is there once. -/
def Distinct (table : List (κ × α)) : Prop := (table.map Prod.fst).Nodup

theorem distinct_nil : Distinct ([] : List (κ × α)) := List.nodup_nil

/-- A pair is the last one of its key. -/
def Last (pairs : List (κ × α)) (pair : κ × α) : Prop :=
  ∃ before after, pairs = before ++ pair :: after ∧ ∀ later ∈ after, later.1 ≠ pair.1

variable [DecidableEq κ]

theorem mem_set {key : κ} {value : α} {table : List (κ × α)} (distinct : Distinct table)
    (pair : κ × α) :
    pair ∈ set key value table ↔ pair = (key, value) ∨ pair.1 ≠ key ∧ pair ∈ table := by
  induction table with
  | nil => simp [set]
  | cons first rest ih =>
    obtain ⟨other, old⟩ := first
    obtain ⟨fresh, tail⟩ := List.nodup_cons.mp distinct
    by_cases found : other = key
    · subst found
      have elsewhere : pair ∈ rest → pair.1 ≠ other :=
        fun member same => fresh (List.mem_map.mpr ⟨pair, member, same⟩)
      simp only [set, if_true, List.mem_cons]
      constructor
      · rintro (rfl | member)
        · exact .inl rfl
        · exact .inr ⟨elsewhere member, .inr member⟩
      · rintro (rfl | ⟨differs, rfl | member⟩)
        · exact .inl rfl
        · exact absurd rfl differs
        · exact .inr member
    · simp only [set, found, if_false, List.mem_cons, ih tail]
      constructor
      · rintro (rfl | rfl | ⟨differs, member⟩)
        · exact .inr ⟨found, .inl rfl⟩
        · exact .inl rfl
        · exact .inr ⟨differs, .inr member⟩
      · rintro (rfl | ⟨differs, rfl | member⟩)
        · exact .inr (.inl rfl)
        · exact .inl rfl
        · exact .inr (.inr ⟨differs, member⟩)

theorem distinct_set {table : List (κ × α)} (distinct : Distinct table) (key : κ) (value : α) :
    Distinct (set key value table) := by
  induction table with
  | nil => simp [Distinct, set]
  | cons first rest ih =>
    obtain ⟨other, old⟩ := first
    obtain ⟨fresh, tail⟩ := List.nodup_cons.mp distinct
    by_cases found : other = key
    · subst found
      simpa [Distinct, set] using distinct
    · simp only [set, found, if_false]
      refine List.nodup_cons.mpr ⟨?_, ih tail⟩
      intro member
      obtain ⟨pair, inside, same⟩ := List.mem_map.mp member
      rcases (mem_set tail pair).mp inside with rfl | ⟨-, old⟩
      · exact found same.symm
      · exact fresh (List.mem_map.mpr ⟨pair, old, same⟩)

theorem distinct_update {table : List (κ × α)} (distinct : Distinct table)
    (changes : List (κ × α)) : Distinct (update table changes) := by
  induction changes generalizing table with
  | nil => exact distinct
  | cons change rest ih => exact ih (distinct_set distinct change.1 change.2)

/-- After a table was updated, a pair is there that is the last change of its key, or that was there
and is not changed. -/
theorem mem_update {table : List (κ × α)} (distinct : Distinct table) (changes : List (κ × α))
    (pair : κ × α) :
    pair ∈ update table changes ↔
      Last changes pair ∨ pair ∈ table ∧ ∀ change ∈ changes, change.1 ≠ pair.1 := by
  induction changes generalizing table with
  | nil => simp [update, Last]
  | cons change rest ih =>
    have next := ih (distinct_set distinct change.1 change.2)
    rw [mem_set distinct] at next
    refine next.trans ?_
    have last : Last (change :: rest) pair ↔
        Last rest pair ∨ change = pair ∧ ∀ later ∈ rest, later.1 ≠ pair.1 := by
      constructor
      · rintro ⟨before, after, split, unchanged⟩
        cases before with
        | nil =>
          cases split
          exact .inr ⟨rfl, unchanged⟩
        | cons first before =>
          cases split
          exact .inl ⟨before, after, rfl, unchanged⟩
      · rintro (⟨before, after, rfl, unchanged⟩ | ⟨rfl, unchanged⟩)
        · exact ⟨change :: before, after, rfl, unchanged⟩
        · exact ⟨[], rest, rfl, unchanged⟩
    rw [last]
    simp only [List.mem_cons, forall_eq_or_imp]
    constructor
    · rintro (late | ⟨rfl | ⟨differs, member⟩, unchanged⟩)
      · exact .inl (.inl late)
      · exact .inl (.inr ⟨rfl, unchanged⟩)
      · exact .inr ⟨member, Ne.symm differs, unchanged⟩
    · rintro ((late | ⟨rfl, unchanged⟩) | ⟨member, differs, unchanged⟩)
      · exact .inl late
      · exact .inr ⟨.inl rfl, unchanged⟩
      · exact .inr ⟨.inr ⟨Ne.symm differs, member⟩, unchanged⟩

/-- The table of pairs holds the last one of every key. -/
theorem mem_ofPairs (pairs : List (κ × α)) (pair : κ × α) :
    pair ∈ ofPairs pairs ↔ Last pairs pair := by
  simpa [ofPairs] using mem_update distinct_nil pairs pair

end Keys

/-- A name is found in a table with the value it is there with. -/
theorem mem_iff_lookup {α : Type} {table : List (String × α)} (distinct : Distinct table)
    (name : String) (value : α) : (name, value) ∈ table ↔ table.lookup name = some value := by
  induction table with
  | nil => simp
  | cons first rest ih =>
    obtain ⟨other, old⟩ := first
    obtain ⟨fresh, tail⟩ := List.nodup_cons.mp distinct
    by_cases same : name = other
    · subst same
      have absent : (name, value) ∉ rest :=
        fun member => fresh (List.mem_map.mpr ⟨(name, value), member, rfl⟩)
      simp [absent, eq_comm]
    · have differs : (name == other) = false := by simpa using same
      simp [List.lookup_cons, differs, same, ih tail]

theorem lookup_eq_none_iff {α : Type} {table : List (String × α)} {name : String} :
    table.lookup name = none ↔ name ∉ table.map Prod.fst := by
  rw [List.lookup_eq_none_iff]
  constructor
  · intro differs member
    obtain ⟨pair, inside, rfl⟩ := List.mem_map.mp member
    simpa using differs pair inside
  · intro absent pair inside
    have differs : name ≠ pair.1 := fun same => absent (List.mem_map.mpr ⟨pair, inside, same.symm⟩)
    simpa using differs

/-- What a table says after an update: what the changes say, else what it said before. -/
theorem lookup_update {α : Type} {changes : List (String × α)} (distinct : Distinct changes)
    (table : List (String × α)) (name : String) :
    (update table changes).lookup name = (changes.lookup name).or (table.lookup name) := by
  induction changes generalizing table with
  | nil => rfl
  | cons change rest ih =>
    obtain ⟨key, value⟩ := change
    obtain ⟨fresh, tail⟩ := List.nodup_cons.mp distinct
    have next : (update table ((key, value) :: rest)).lookup name =
        (rest.lookup name).or ((set key value table).lookup name) := ih tail (set key value table)
    rw [next, lookup_set]
    by_cases same : name = key
    · subst same
      simp [lookup_eq_none_iff.mpr fresh]
    · have differs : (name == key) = false := by simpa using same
      simp [List.lookup_cons, differs, same]

end TurtleScript.Table
