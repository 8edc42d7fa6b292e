import TurtleScript.Data.Table
import TurtleScript.Proofs.Stopping

/-!
Observers who do nothing are not noticed. Two engines are compared that differ in the delay and in
observers without reactions. An observer who has some is shown the same snapshots in both and gives
the same responses, in the same order, so a notification has the same outcome, however deep it
nests. Responses give up subscriptions by the number of their ticket; the comparison keeps account
of the tickets that may still be given up.
-/
namespace TurtleScript

/-! ## Observers who do nothing -/

namespace Observers

theorem pending_eq_length (o : Observers) :
    o.pending = (o.reactions.flatMap Prod.snd).length := by
  have counts : ∀ (entries : List (String × List Reaction)) (count : Nat),
      entries.foldl (fun count entry => count + entry.2.length) count =
        count + (entries.flatMap Prod.snd).length := by
    intro entries
    induction entries with
    | nil => exact fun _ => rfl
    | cons entry rest ih =>
      intro count
      rw [List.foldl_cons, ih, List.flatMap_cons, List.length_append, Nat.add_assoc]
  rw [pending, counts, Nat.zero_add]

/-- What an entry of an observer becomes when its reactions are replaced. -/
private def replace (name : String) (later : List Reaction) (entry : String × List Reaction) :
    String × List Reaction :=
  if entry.1 = name then (name, later) else entry

private theorem replace_absent {entries : List (String × List Reaction)} {name : String}
    (absent : name ∉ entries.map Prod.fst) (later : List Reaction) :
    entries.map (replace name later) = entries := by
  refine (List.map_congr_left fun entry member => ?_).trans (List.map_id entries)
  have differs : entry.1 ≠ name := fun same => absent (List.mem_map.mpr ⟨entry, member, same⟩)
  exact if_neg differs

private theorem distinct_replaced {entries : List (String × List Reaction)}
    (distinct : Table.Distinct entries) (name : String) (later : List Reaction) :
    Table.Distinct (entries.map (replace name later)) := by
  have keys : (entries.map (replace name later)).map Prod.fst = entries.map Prod.fst := by
    rw [List.map_map]
    apply List.map_congr_left
    intro entry _
    by_cases same : entry.1 = name
    · simp [replace, same]
    · simp [replace, same]
  rw [Table.Distinct, keys]
  exact distinct

/-- Replacing the reactions of an observer changes the number of reactions by as many. -/
private theorem length_replaced {entries : List (String × List Reaction)}
    (distinct : Table.Distinct entries) {name : String} {own : List Reaction}
    (found : entries.lookup name = some own) (later : List Reaction) :
    ((entries.map (replace name later)).flatMap Prod.snd).length + own.length =
      (entries.flatMap Prod.snd).length + later.length := by
  induction entries with
  | nil => cases found
  | cons entry rest ih =>
    obtain ⟨key, reactions⟩ := entry
    obtain ⟨fresh, tail⟩ := List.nodup_cons.mp distinct
    by_cases same : name = key
    · subst same
      have first : reactions = own := by simpa using found
      subst first
      rw [List.map_cons, replace_absent fresh]
      simp only [replace, if_true, List.flatMap_cons, List.length_append]
      omega
    · have differs : (name == key) = false := by simpa using same
      have further : rest.lookup name = some own := by simpa [List.lookup_cons, differs] using found
      have kept : replace name later (key, reactions) = (key, reactions) := if_neg (Ne.symm same)
      have rest := ih tail further
      simp only [List.map_cons, List.flatMap_cons, List.length_append, kept]
      omega

private theorem takeDue_reactions (o : Observers) (name : String) (step : Int) :
    (o.takeDue name step).2.reactions =
      o.reactions.map (replace name ((o.known name).filter fun r => !(r.atStep == step))) := rfl

theorem distinct_takeDue {o : Observers} (distinct : Table.Distinct o.reactions) (name : String)
    (step : Int) : Table.Distinct (o.takeDue name step).2.reactions := by
  rw [takeDue_reactions]
  exact distinct_replaced distinct name _

/-- The reactions that are taken are no longer pending. -/
theorem pending_takeDue {o : Observers} (distinct : Table.Distinct o.reactions) (name : String)
    (step : Int) :
    (o.takeDue name step).2.pending + (o.takeDue name step).1.length = o.pending := by
  have parts : ∀ reactions : List Reaction,
      (reactions.filter fun r => r.atStep == step).length +
        (reactions.filter fun r => !(r.atStep == step)).length = reactions.length := by
    intro reactions
    induction reactions with
    | nil => rfl
    | cons reaction rest ih =>
      cases due : reaction.atStep == step with
      | true =>
        simp only [List.filter_cons, due, if_true, Bool.not_true, Bool.false_eq_true, if_false,
          List.length_cons]
        omega
      | false =>
        simp only [List.filter_cons, due, if_true, Bool.not_false, Bool.false_eq_true, if_false,
          List.length_cons]
        omega
  have due : (o.takeDue name step).1 = (o.known name).filter fun r => r.atStep == step := rfl
  rw [pending_eq_length, pending_eq_length, takeDue_reactions, due]
  cases found : o.reactions.lookup name with
  | none =>
    have nothing : o.known name = [] := by simp [known, found]
    rw [replace_absent (Table.lookup_eq_none_iff.mp found), nothing]
    rfl
  | some own =>
    have own_eq : o.known name = own := by simp [known, found]
    have changed := length_replaced distinct found (own.filter fun r => !(r.atStep == step))
    have split := parts own
    rw [own_eq]
    omega

/-- Nothing is taken from an observer who has no reactions left. -/
theorem takeDue_quiet {o : Observers} {name : String} (quiet : o.known name = [])
    (distinct : Table.Distinct o.reactions) (step : Int) : o.takeDue name step = ([], o) := by
  have kept : o.reactions.map (replace name []) = o.reactions := by
    refine (List.map_congr_left ?_).trans (List.map_id o.reactions)
    rintro ⟨key, reactions⟩ member
    by_cases same : key = name
    · subst same
      have found := (Table.mem_iff_lookup distinct key reactions).mp member
      have empty : reactions = [] := by simpa [known, found] using quiet
      simp [replace, empty]
    · exact if_neg same
  have due : (o.takeDue name step).1 = [] := by
    change (o.known name).filter _ = []
    rw [quiet]
    rfl
  have left : (o.takeDue name step).2 = o := by
    have same : (o.takeDue name step).2.reactions = o.reactions := by
      rw [takeDue_reactions, quiet]
      exact kept
    change { o with reactions := (o.takeDue name step).2.reactions } = o
    rw [same]
  exact Prod.ext due left

theorem distinct_subscribe {o : Observers} (distinct : Table.Distinct o.reactions) (name : String)
    (reactions : List Reaction) : Table.Distinct (o.subscribe name reactions).reactions := by
  unfold subscribe
  cases found : o.reactions.lookup name with
  | some own => simpa using distinct
  | none =>
    simp only [Option.isSome_none, Bool.false_eq_true, if_false, Table.Distinct, List.map_append,
      List.map_cons, List.map_nil]
    refine List.nodup_append.mpr ⟨distinct, by simp, ?_⟩
    rintro key member other last rfl
    cases List.mem_singleton.mp last
    exact Table.lookup_eq_none_iff.mp found member

theorem pending_subscribe_silent (o : Observers) (name : String) :
    (o.subscribe name []).pending = o.pending := by
  rw [pending_eq_length, pending_eq_length]
  unfold subscribe
  split
  · rfl
  · rw [List.flatMap_append, List.length_append]
    rfl

end Observers

/-! ## Two lots of observers -/

/-- A response gives up no other subscriptions than those with certain tickets. -/
def Response.GivesUpOnly (held : Nat → Prop) : Response → Prop
  | .unsubscribe ticket => held ticket
  | _ => True

instance (held : Nat → Prop) [DecidablePred held] : DecidablePred (Response.GivesUpOnly held)
  | .unsubscribe ticket => inferInstanceAs (Decidable (held ticket))
  | .stop | .fail | .misuse _ | .reset _ | .color _ | .apply _ | .subscribe _ | .start =>
    .isTrue trivial

theorem Response.GivesUpOnly.and {r : Response} {one other : Nat → Prop}
    (first : r.GivesUpOnly one) (second : r.GivesUpOnly other) :
    r.GivesUpOnly fun ticket => one ticket ∧ other ticket := by
  cases r with
  | unsubscribe ticket => exact ⟨first, second⟩
  | _ => trivial

/-- What observers may still do: who of them may respond, and which tickets they may give up. -/
structure Scope where
  lively : String → Bool
  held : Nat → Prop

/-- Observers may do anything. -/
def Scope.all : Scope := ⟨fun _ => true, fun _ => True⟩

namespace Observers

/-- Observers keep to a scope: all others have no reactions left, and no other ticket is given
up. -/
structure KeepTo (o : Observers) (scope : Scope) : Prop where
  silent : ∀ name, scope.lively name = false → o.known name = []
  holds : ∀ name, ∀ reaction ∈ o.known name, reaction.response.GivesUpOnly scope.held

theorem KeepTo.of_known {o p : Observers} {scope : Scope} (keeps : o.KeepTo scope)
    (fewer : ∀ name, ∀ reaction ∈ p.known name, reaction ∈ o.known name) : p.KeepTo scope where
  silent name dull := by
    apply List.eq_nil_iff_forall_not_mem.mpr
    intro reaction member
    have before := fewer name reaction member
    rw [keeps.silent name dull] at before
    cases before
  holds name reaction member := keeps.holds name reaction (fewer name reaction member)

/-- Two lots of observers differ in some who do nothing. Everyone has the same reactions left. Those
who may respond are subscribed in the same order, and what they may give up is found under the same
ticket: both lots have the same tickets, or those that are held were issued in both. -/
structure Alike (scope : Scope) (o p : Observers) : Prop where
  left : Table.Distinct o.reactions
  right : Table.Distinct p.reactions
  known : ∀ name, p.known name = o.known name
  pending : p.pending = o.pending
  keeps : o.KeepTo scope
  subscribed : p.subscribed.filter scope.lively = o.subscribed.filter scope.lively
  tickets : p.tickets = o.tickets ∨ ∀ ticket, scope.held ticket →
    ∃ name, o.tickets[ticket]? = some name ∧ p.tickets[ticket]? = some name

theorem Alike.refl {o : Observers} (distinct : Table.Distinct o.reactions) : Alike .all o o where
  left := distinct
  right := distinct
  known _ := rfl
  pending := rfl
  keeps := ⟨nofun, fun _ reaction _ => by cases reaction.response <;> trivial⟩
  subscribed := rfl
  tickets := .inl rfl

namespace Alike

variable {scope : Scope} {o p : Observers}

/-- What observers have been told is no part of it. -/
theorem told (alike : Alike scope o p) (here there : Array Event) :
    Alike scope { o with events := here } { p with events := there } where
  left := alike.left
  right := alike.right
  known := alike.known
  pending := alike.pending
  keeps := alike.keeps.of_known fun _ _ member => member
  subscribed := alike.subscribed
  tickets := alike.tickets

theorem due (alike : Alike scope o p) (name : String) (step : Int) :
    (p.takeDue name step).1 = (o.takeDue name step).1 :=
  congrArg (List.filter fun r : Reaction => r.atStep == step) (alike.known name)

theorem takeDue (alike : Alike scope o p) (name : String) (step : Int) :
    Alike scope (o.takeDue name step).2 (p.takeDue name step).2 where
  left := distinct_takeDue alike.left name step
  right := distinct_takeDue alike.right name step
  known other := by
    rw [known_takeDue, known_takeDue, alike.known name, alike.known other]
  pending := by
    have here := pending_takeDue alike.left name step
    have there := pending_takeDue alike.right name step
    have same := alike.pending
    rw [alike.due name step] at there
    omega
  keeps := by
    refine alike.keeps.of_known fun other reaction member => ?_
    rw [known_takeDue] at member
    split at member
    · rename_i same
      rw [same]
      exact (List.mem_filter.mp member).1
    · exact member
  subscribed := alike.subscribed
  tickets := alike.tickets

theorem subscribe (alike : Alike scope o p) (name : String) :
    Alike scope (o.subscribe name []) (p.subscribe name []) where
  left := distinct_subscribe alike.left name []
  right := distinct_subscribe alike.right name []
  known other := by
    rw [known_subscribe_silent, known_subscribe_silent, alike.known other]
  pending := by
    rw [pending_subscribe_silent, pending_subscribe_silent, alike.pending]
  keeps := by
    refine alike.keeps.of_known fun other reaction member => ?_
    rwa [known_subscribe_silent] at member
  subscribed := by
    simp only [Observers.subscribe, List.filter_append, alike.subscribed]
  tickets := by
    rcases alike.tickets with same | issued
    · exact .inl (by simp only [Observers.subscribe, same])
    · refine .inr fun ticket held => ?_
      obtain ⟨owner, here, there⟩ := issued ticket held
      have before := (List.getElem?_eq_some_iff.mp here).1
      have also := (List.getElem?_eq_some_iff.mp there).1
      exact ⟨owner, (List.getElem?_append_left before).trans here,
        (List.getElem?_append_left also).trans there⟩

theorem unsubscribe (alike : Alike scope o p) {ticket : Nat} (held : scope.held ticket) :
    Alike scope (o.unsubscribe ticket) (p.unsubscribe ticket) := by
  have owner : p.tickets[ticket]? = o.tickets[ticket]? := by
    rcases alike.tickets with same | issued
    · rw [same]
    · obtain ⟨name, here, there⟩ := issued ticket held
      rw [here, there]
  unfold Observers.unsubscribe
  rw [owner]
  cases o.tickets[ticket]? with
  | none => exact alike
  | some name =>
    exact
      { left := alike.left
        right := alike.right
        known := alike.known
        pending := alike.pending
        keeps := alike.keeps.of_known fun _ _ member => member
        subscribed := by
          change (p.subscribed.erase name).filter _ = (o.subscribed.erase name).filter _
          rw [← List.erase_filter, alike.subscribed, List.erase_filter]
        tickets := alike.tickets }

/-- Those who have reactions left are all who may respond. -/
theorem narrow (alike : Alike scope o p) {held : Nat → Prop}
    (holds : ∀ name, ∀ reaction ∈ o.known name, reaction.response.GivesUpOnly held)
    (tickets : p.tickets = o.tickets ∨ ∀ ticket, held ticket →
      ∃ name, o.tickets[ticket]? = some name ∧ p.tickets[ticket]? = some name) :
    Alike ⟨fun name => !(o.known name).isEmpty, held⟩ o p where
  left := alike.left
  right := alike.right
  known := alike.known
  pending := alike.pending
  keeps := ⟨fun name dull => by simpa using dull, holds⟩
  subscribed := by
    have twice : ∀ names : List String,
        (names.filter scope.lively).filter (fun name => !(o.known name).isEmpty) =
          names.filter fun name => !(o.known name).isEmpty := by
      intro names
      rw [List.filter_filter]
      apply List.filter_congr
      intro name _
      cases lively : scope.lively name with
      | true => simp
      | false => simp [alike.keeps.silent name lively]
    rw [← twice p.subscribed, alike.subscribed, twice o.subscribed]
  tickets := tickets

/-- One lot gets another observer, who does nothing, and keeps or issues its ticket. -/
theorem join (alike : Alike scope o p) {name : String} (dull : scope.lively name = false)
    {tickets : List String} (issued : tickets = o.tickets ∨ ∀ ticket, scope.held ticket →
      ∃ name, o.tickets[ticket]? = some name ∧ tickets[ticket]? = some name) :
    Alike scope o { p.subscribe name [] with tickets } where
  left := alike.left
  right := distinct_subscribe alike.right name []
  known other := (known_subscribe_silent p name other).trans (alike.known other)
  pending := (pending_subscribe_silent p name).trans alike.pending
  keeps := alike.keeps
  subscribed := by
    simp only [Observers.subscribe, List.filter_append, alike.subscribed]
    simp [dull]
  tickets := issued

end Alike

end Observers

/-! ## Two engines -/

namespace Engine

/-- Two engines differ in the delay and in observers who do nothing. -/
def Alike (scope : Scope) (a b : Engine) : Prop :=
  ∃ speed observers, b = { a with speed, observers } ∧ a.observers.Alike scope observers

variable {scope : Scope} {a b : Engine}

/-- Whatever is done to the fields that they share leaves them alike. -/
theorem Alike.map (alike : a.Alike scope b) (change : Engine → Engine)
    (observers : ∀ e, (change e).observers = e.observers)
    (apart : ∀ e speed observers,
      change { e with speed, observers } = { change e with speed, observers }) :
    (change a).Alike scope (change b) := by
  obtain ⟨speed, others, rfl, alike⟩ := alike
  refine ⟨speed, others, apart a speed others, ?_⟩
  rw [observers a]
  exact alike

theorem Alike.withObservers (alike : a.Alike scope b) (change : Observers → Observers)
    (changed : (change a.observers).Alike scope (change b.observers)) :
    (a.withObservers change).Alike scope (b.withObservers change) := by
  obtain ⟨speed, others, rfl, -⟩ := alike
  exact ⟨speed, change others, rfl, changed⟩

theorem Alike.observers (alike : a.Alike scope b) : a.observers.Alike scope b.observers := by
  obtain ⟨speed, others, rfl, alike⟩ := alike
  exact alike

/-- The delays are no part of it. -/
theorem Alike.atSpeeds (alike : a.Alike scope b) (here there : Int) :
    Alike scope { a with speed := here } { b with speed := there } := by
  obtain ⟨speed, others, rfl, alike⟩ := alike
  exact ⟨there, others, rfl, alike⟩

theorem Alike.snapshot (alike : a.Alike scope b) : b.snapshot = a.snapshot := by
  obtain ⟨speed, others, rfl, -⟩ := alike
  rfl

theorem Alike.active (alike : a.Alike scope b) : b.active = a.active := by
  obtain ⟨speed, others, rfl, -⟩ := alike
  rfl

theorem Alike.effect (alike : a.Alike scope b) (c : Command) : b.effect c = a.effect c := by
  obtain ⟨speed, others, rfl, -⟩ := alike
  rfl

theorem Alike.commit (alike : a.Alike scope b) (effect : Effect) :
    (a.commit effect).Alike scope (b.commit effect) :=
  alike.map (·.commit effect) (fun e => e.commit_observers effect)
    (fun _ _ _ => by cases effect <;> rfl)

theorem Alike.center (alike : a.Alike scope b) (start : Option Pose) :
    start.elim (centerOf b.width b.height) Except.ok =
      start.elim (centerOf a.width a.height) Except.ok := by
  obtain ⟨speed, others, rfl, -⟩ := alike
  rfl

/-! ## Telling -/

/-- Two engines answer the same, and are alike afterwards. -/
def AlikeResults (scope : Scope) (x y : Result Unit) : Prop :=
  y.1 = x.1 ∧ x.2.Alike scope y.2

theorem AlikeResults.split {x y : Result Unit} (alike : AlikeResults scope x y) :
    ∃ answer a b, x = (answer, a) ∧ y = (answer, b) ∧ a.Alike scope b :=
  ⟨x.1, x.2, y.2, rfl, Prod.ext alike.1 rfl, alike.2⟩

section Telling

variable {tell : Engine → Result Unit}

/-- Both go on after what succeeded in both. -/
private theorem alike_then {here there : Engine → Result Unit}
    (goes : ∀ {a b}, a.Alike scope b → AlikeResults scope (here a) (there b)) {x y : Result Unit} :
    AlikeResults scope x y → AlikeResults scope
      (match x with
        | (.error error, after) => (.error error, after)
        | (.ok _, after) => here after)
      (match y with
        | (.error error, after) => (.error error, after)
        | (.ok _, after) => there after) := by
  intro first
  obtain ⟨answer, a, b, rfl, rfl, alike⟩ := first.split
  cases answer with
  | error error => exact ⟨rfl, alike⟩
  | ok _ => exact goes alike

variable (told : ∀ {a b}, a.Alike scope b → AlikeResults scope (tell a) (tell b))

include told in
theorem resetWith_alike (alike : a.Alike scope b) (start : Option Pose) :
    AlikeResults scope (a.resetWith tell start) (b.resetWith tell start) := by
  unfold resetWith
  rw [alike.center start]
  cases start.elim (centerOf a.width a.height) Except.ok with
  | error fault => exact ⟨rfl, alike⟩
  | ok pose => exact told (alike.map (·.restart pose) (fun _ => rfl) (fun _ _ _ => rfl))

include told in
private theorem respond_alike (alike : a.Alike scope b) (name : String) {r : Response}
    (gives : r.GivesUpOnly scope.held) :
    AlikeResults scope (a.respond tell name r) (b.respond tell name r) := by
  cases r with
  | stop => exact ⟨rfl, alike.map stop (fun _ => rfl) (fun _ _ _ => rfl)⟩
  | fail | misuse => exact ⟨rfl, alike⟩
  | reset start => exact resetWith_alike told alike start
  | color color => exact ⟨rfl, alike.map (·.setColor color) (fun _ => rfl) (fun _ _ _ => rfl)⟩
  | apply command =>
    simp only [respond, apply, alike.effect command]
    cases a.effect command with
    | error error => exact ⟨rfl, alike⟩
    | ok effect => exact ⟨rfl, alike.commit effect⟩
  | unsubscribe ticket =>
    exact ⟨rfl, alike.withObservers (·.unsubscribe ticket) (alike.observers.unsubscribe gives)⟩
  | subscribe other =>
    exact ⟨rfl, alike.withObservers (·.subscribe other []) (alike.observers.subscribe other)⟩
  | start =>
    simp only [respond, alike.active]
    split
    · exact ⟨rfl, alike.withObservers (·.note _) (alike.observers.told _ _)⟩
    · exact ⟨rfl, alike⟩

include told in
private theorem respondAll_alike (name : String) (due : List Reaction) (alike : a.Alike scope b)
    (gives : ∀ reaction ∈ due, reaction.response.GivesUpOnly scope.held) :
    AlikeResults scope (respondAll tell name a due) (respondAll tell name b due) := by
  induction due generalizing a b with
  | nil => exact ⟨rfl, alike⟩
  | cons reaction rest ih =>
    have first := respond_alike told alike name (gives reaction (by simp))
    exact alike_then (fun after => ih after fun r member => gives r (by simp [member])) first

include told in
private theorem tellOne_alike (alike : a.Alike scope b) (snapshot : Snapshot) (name : String) :
    AlikeResults scope (a.tellOne tell snapshot name) (b.tellOne tell snapshot name) := by
  have noted : (a.observers.note (.shown name snapshot)).Alike scope
      (b.observers.note (.shown name snapshot)) := alike.observers.told _ _
  have taken := noted.takeDue name snapshot.currentStep
  have due := noted.due name snapshot.currentStep
  obtain ⟨speed, others, rfl, -⟩ := alike
  simp only [tellOne]
  rw [due]
  refine respondAll_alike told name _ ⟨speed, _, rfl, taken⟩ fun reaction member => ?_
  exact noted.keeps.holds name reaction (List.mem_filter.mp member).1

/-- Observers who do nothing are shown a snapshot, and nothing else happens. -/
private theorem tellEach_quiet (snapshot : Snapshot) (names rest : List String) (e : Engine)
    (distinct : Table.Distinct e.observers.reactions)
    (quiet : ∀ name ∈ names, e.observers.known name = []) :
    ∃ events, tellEach tell snapshot e (names ++ rest) =
      tellEach tell snapshot { e with observers := { e.observers with events } } rest := by
  induction names generalizing e with
  | nil => exact ⟨e.observers.events, rfl⟩
  | cons name others ih =>
    let noted := e.observers.note (.shown name snapshot)
    have nothing : noted.takeDue name snapshot.currentStep = ([], noted) :=
      Observers.takeDue_quiet (o := noted) (quiet name (by simp)) distinct _
    have still : e.tellOne tell snapshot name = (.ok (), { e with observers := noted }) := by
      simp only [tellOne]
      rw [nothing]
      rfl
    obtain ⟨events, rested⟩ := ih { e with observers := noted } distinct
      fun other member => quiet other (by simp [member])
    refine ⟨events, ?_⟩
    simp only [List.cons_append, tellEach, still]
    exact rested

include told in
/-- Two engines tell their observers alike if those who may respond are told in the same order. -/
private theorem tellEach_alike (snapshot : Snapshot) (names others : List String)
    (alike : a.Alike scope b) (same : others.filter scope.lively = names.filter scope.lively) :
    AlikeResults scope (tellEach tell snapshot a names) (tellEach tell snapshot b others) := by
  -- Those who do nothing may stand on either side between two that are told on both.
  induction names generalizing a b others with
  | nil =>
    have quiet : ∀ name ∈ others, b.observers.known name = [] := by
      intro name member
      have dull : scope.lively name = false :=
        Bool.eq_false_iff.mpr (List.filter_eq_nil_iff.mp same name member)
      rw [alike.observers.known, alike.observers.keeps.silent name dull]
    obtain ⟨events, left⟩ := tellEach_quiet snapshot others [] b alike.observers.right quiet
    rw [List.append_nil] at left
    rw [left]
    obtain ⟨speed, there, rfl, alike⟩ := alike
    exact ⟨rfl, speed, _, rfl, alike.told a.observers.events events⟩
  | cons name rest ih =>
    cases lively : scope.lively name with
    | false =>
      have quiet := alike.observers.keeps.silent name lively
      obtain ⟨events, left⟩ := tellEach_quiet snapshot [name] rest a alike.observers.left (by simpa)
      rw [List.cons_append, List.nil_append] at left
      rw [left]
      obtain ⟨speed, there, rfl, alike⟩ := alike
      refine ih others ⟨speed, there, rfl, alike.told events there.events⟩ ?_
      rw [same, List.filter_cons_of_neg (by simp [lively])]
    | true =>
      rw [List.filter_cons_of_pos lively] at same
      obtain ⟨before, after, rfl, dull, -, same⟩ := List.filter_eq_cons_iff.mp same
      have quiet : ∀ name ∈ before, b.observers.known name = [] := by
        intro name member
        have dull : scope.lively name = false := Bool.eq_false_iff.mpr (dull name member)
        rw [alike.observers.known, alike.observers.keeps.silent name dull]
      obtain ⟨events, left⟩ :=
        tellEach_quiet snapshot before (name :: after) b alike.observers.right quiet
      rw [left]
      obtain ⟨speed, there, rfl, alike⟩ := alike
      have still : a.Alike scope { a with speed, observers := { there with events } } :=
        ⟨speed, _, rfl, alike.told a.observers.events events⟩
      have first := tellOne_alike told still snapshot name
      exact alike_then (fun later => ih after later same) first

end Telling

theorem notifyWithin_alike (depth : Nat) (alike : a.Alike scope b) :
    AlikeResults scope (notifyWithin depth a) (notifyWithin depth b) := by
  induction depth generalizing a b with
  | zero => exact ⟨rfl, alike⟩
  | succ depth ih =>
    simp only [notifyWithin]
    rw [alike.snapshot]
    exact tellEach_alike ih a.snapshot _ _ alike alike.observers.subscribed

theorem notify_alike (alike : a.Alike scope b) : AlikeResults scope a.notify b.notify := by
  -- The depth is the number of reactions left, and those who do nothing have none.
  simp only [notify]
  rw [alike.observers.pending]
  exact notifyWithin_alike _ alike

theorem reset_alike (alike : a.Alike scope b) (start : Option Pose) :
    AlikeResults scope (a.reset start) (b.reset start) :=
  resetWith_alike notify_alike alike start

end Engine

end TurtleScript
