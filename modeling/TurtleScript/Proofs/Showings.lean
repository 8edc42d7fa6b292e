import TurtleScript.Proofs.Stopping

/-!
What a notification shows. Observers are told one after the other, until one of them raises an
error, and each is shown the same snapshot. Whatever else they do, only a reset would show more from
inside; observers who do not reset are calm.
-/
namespace TurtleScript

/-! ## What observers were shown -/

/-- A response that notifies nobody. -/
def Response.Calm : Response → Prop
  | .reset _ => False
  | _ => True

theorem Response.Harmless.calm {r : Response} (harmless : r.Harmless) : r.Calm := by
  cases r with
  | reset => exact harmless
  | _ => trivial

namespace Observers

/-- What was shown and to whom, in order. -/
def showings (o : Observers) : List (String × Snapshot) :=
  o.events.toList.filterMap fun
    | .shown name snapshot => some (name, snapshot)
    | .refused _ _ => none

/-- The snapshots that an observer was shown, in order. -/
def shownTo (o : Observers) (name : String) : List Snapshot :=
  (o.showings.filter fun showing => showing.1 == name).map Prod.snd

variable (o : Observers)

@[simp] theorem showings_note_shown (name : String) (snapshot : Snapshot) :
    (o.note (.shown name snapshot)).showings = o.showings ++ [(name, snapshot)] := by
  simp [showings, note]

@[simp] theorem showings_note_refused (name : String) (error : EngineError) :
    (o.note (.refused name error)).showings = o.showings := by
  simp [showings, note]

@[simp] theorem showings_subscribe (name : String) (reactions : List Reaction) :
    (o.subscribe name reactions).showings = o.showings := rfl

@[simp] theorem showings_unsubscribe (ticket : Nat) :
    (o.unsubscribe ticket).showings = o.showings := by
  unfold unsubscribe
  split <;> rfl

@[simp] theorem showings_takeDue (name : String) (step : Int) :
    (o.takeDue name step).2.showings = o.showings := rfl

/-- Who is told of a snapshot sees it as often as its name is among those who are told. -/
theorem shownTo_of_told {o after : Observers} {told : List String} {snapshot : Snapshot}
    (showings : after.showings = o.showings ++ told.map fun name => (name, snapshot))
    (name : String) :
    after.shownTo name = o.shownTo name ++ List.replicate (told.count name) snapshot := by
  simp [shownTo, showings, List.filter_map, Function.comp_def, List.filter_beq]

end Observers

namespace Engine

variable (tell : Engine → Result Unit)

private theorem respond_calm {e : Engine} {r : Response} (name : String) (calm : r.Calm)
    (give : e.observers.Give Response.Calm) :
    (e.respond tell name r).2.observers.showings = e.observers.showings ∧
      (e.respond tell name r).2.observers.Give Response.Calm := by
  cases r with
  | reset => exact calm.elim
  | stop | fail | misuse | color => exact ⟨rfl, give⟩
  | apply command =>
    simp only [respond]
    split
    · exact ⟨rfl, give⟩
    · rename_i applied
      obtain ⟨effect, -, -, rfl⟩ := apply_eq_ok applied
      simpa using give
  | unsubscribe ticket => exact ⟨by simp [respond, withObservers], give.unsubscribe ticket⟩
  | subscribe other => exact ⟨rfl, give.subscribe other (by simp)⟩
  | start =>
    simp only [respond]
    split
    · exact ⟨by simp [withObservers], give⟩
    · exact ⟨rfl, give⟩

private theorem respondAll_calm (name : String) (reactions : List Reaction) (e : Engine)
    (calm : ∀ reaction ∈ reactions, reaction.response.Calm)
    (give : e.observers.Give Response.Calm) :
    (respondAll tell name e reactions).2.observers.showings = e.observers.showings ∧
      (respondAll tell name e reactions).2.observers.Give Response.Calm := by
  induction reactions generalizing e with
  | nil => exact ⟨rfl, give⟩
  | cons reaction rest ih =>
    have first := respond_calm tell name (calm reaction (by simp)) give
    simp only [respondAll]
    cases responded : e.respond tell name reaction.response with
    | mk answer after =>
      rw [responded] at first
      cases answer with
      | error error => exact first
      | ok _ =>
        obtain ⟨same, gives⟩ := ih after (fun r member => calm r (by simp [member])) first.2
        exact ⟨same.trans first.1, gives⟩

/-- An observer that is told is shown the snapshot, and nobody else is shown anything by it. -/
private theorem tellOne_calm (snapshot : Snapshot) (name : String) {e : Engine}
    (give : e.observers.Give Response.Calm) :
    (e.tellOne tell snapshot name).2.observers.showings =
        e.observers.showings ++ [(name, snapshot)] ∧
      (e.tellOne tell snapshot name).2.observers.Give Response.Calm := by
  have noted : (e.observers.note (.shown name snapshot)).Give Response.Calm := give
  obtain ⟨same, gives⟩ := respondAll_calm tell name _ { e with observers := _ }
    noted.due (noted.takeDue name snapshot.currentStep)
  refine ⟨same.trans ?_, gives⟩
  simp

/-- The first of the observers in order at whom telling them fails. -/
def failing? (tell : Engine → Result Unit) (snapshot : Snapshot) :
    Engine → List String → Option String
  | _, [] => none
  | e, name :: rest =>
    match e.tellOne tell snapshot name with
    | (.error _, _) => some name
    | (.ok _, after) => failing? tell snapshot after rest

/-- The observer who raises an error when the engine notifies, if one does. -/
def raiser? (e : Engine) : Option String :=
  failing? (notifyWithin e.observers.pending) e.snapshot e e.observers.subscribed

/-- Observers were told in order, up to the one who raised an error if there is one. -/
structure Told (e : Engine) (snapshot : Snapshot) (names : List String) (raiser : Option String)
    (result : Result Unit) (told : List String) : Prop where
  first : told <+: names
  showings : result.2.observers.showings =
    e.observers.showings ++ told.map fun name => (name, snapshot)
  calm : result.2.observers.Give Response.Calm
  all : result.1 = .ok () → told = names ∧ raiser = none
  broken : ∀ error, result.1 = .error error → ∃ last, raiser = some last ∧
    told.getLast? = some last

private theorem tellEach_calm (snapshot : Snapshot) (names : List String) (e : Engine)
    (give : e.observers.Give Response.Calm) :
    ∃ told, Told e snapshot names (failing? tell snapshot e names)
      (tellEach tell snapshot e names) told := by
  induction names generalizing e with
  | nil =>
    exact ⟨[], List.prefix_rfl, by simp [tellEach], give, fun _ => ⟨rfl, rfl⟩,
      by rintro _ ⟨⟩⟩
  | cons name rest ih =>
    have first := tellOne_calm tell snapshot name give
    simp only [tellEach, failing?]
    cases one : e.tellOne tell snapshot name with
    | mk answer after =>
      rw [one] at first
      cases answer with
      | error error =>
        exact ⟨[name], by simp, first.1, first.2, by rintro ⟨⟩, fun _ _ => ⟨name, rfl, rfl⟩⟩
      | ok _ =>
        obtain ⟨told, later⟩ := ih after first.2
        refine ⟨name :: told, ?_, ?_, later.calm, ?_, ?_⟩
        · simpa using later.first
        · rw [later.showings, first.1]
          simp
        · intro done
          obtain ⟨everyone, nobody⟩ := later.all done
          exact ⟨by rw [everyone], nobody⟩
        · intro error failed
          obtain ⟨last, raised, final⟩ := later.broken error failed
          exact ⟨last, raised, by simp [List.getLast?_cons, final]⟩

theorem notify_told {e : Engine} (give : e.observers.Give Response.Calm) :
    ∃ told, Told e e.snapshot e.observers.subscribed e.raiser? e.notify told :=
  tellEach_calm _ e.snapshot e.observers.subscribed e give

/-- A notification that does not fail shows everybody its snapshot as often as they are
subscribed. -/
theorem notify_shows_each {e after : Engine} (give : e.observers.Give Response.Calm)
    (done : e.notify = (.ok (), after)) (name : String) :
    after.observers.shownTo name = e.observers.shownTo name ++
        List.replicate (e.observers.subscribed.count name) e.snapshot ∧
      e.raiser? = none := by
  obtain ⟨told, notified⟩ := notify_told give
  rw [done] at notified
  obtain ⟨everyone, nobody⟩ := notified.all rfl
  rw [Observers.shownTo_of_told notified.showings, everyone]
  exact ⟨rfl, nobody⟩

theorem notify_shows {e after : Engine} {name : String}
    (give : e.observers.Give Response.Calm) (once : e.observers.subscribed.count name = 1)
    (done : e.notify = (.ok (), after)) :
    after.observers.shownTo name = e.observers.shownTo name ++ [e.snapshot] ∧
      e.raiser? = none := by
  have shown := notify_shows_each give done name
  rwa [once] at shown

/-- A notification that fails ends with the observer who fails, and a subscriber may have been shown
the snapshot before that, or be the one. -/
theorem notify_fails {e after : Engine} {name : String} {error : EngineError}
    (give : e.observers.Give Response.Calm) (once : e.observers.subscribed.count name = 1)
    (failed : e.notify = (.error error, after)) :
    ∃ raiser, e.raiser? = some raiser ∧
      after.observers.showings.getLast? = some (raiser, e.snapshot) ∧
      (after.observers.shownTo name = e.observers.shownTo name ++ [e.snapshot] ∨
        raiser ≠ name ∧ after.observers.shownTo name = e.observers.shownTo name) := by
  obtain ⟨told, notified⟩ := notify_told give
  rw [failed] at notified
  obtain ⟨raiser, raised, last⟩ := notified.broken error rfl
  have shown := Observers.shownTo_of_told notified.showings name
  have atMost : told.count name ≤ 1 := once ▸ notified.first.sublist.count_le name
  refine ⟨raiser, raised, ?_, ?_⟩
  · rw [notified.showings, List.getLast?_append, List.getLast?_map, last]
    rfl
  · by_cases reached : name ∈ told
    · have positive := List.count_pos_iff.mpr reached
      rw [show told.count name = 1 by omega] at shown
      exact .inl shown
    · rw [List.count_eq_zero.mpr reached, List.replicate_zero, List.append_nil] at shown
      refine .inr ⟨?_, shown⟩
      rintro rfl
      exact reached (List.mem_of_getLast? last)

/-- No observer fails because a run was cancelled. -/
theorem notify_uncancelled (e : Engine) : e.notify.1 ≠ .error .cancelled := by
  have borne : Borne (fun _ => True) (fun _ result => result.1 ≠ .error .cancelled) :=
    { still := fun _ => by rintro ⟨⟩
      next := fun _ second => second
      observers := fun _ _ => by rintro ⟨⟩
      response := by
        intro tell e r name _ told _
        cases r with
        | stop | fail | misuse | color | unsubscribe | subscribe | start => rintro ⟨⟩
        | reset start =>
          simp only [respond, resetWith]
          split
          · rintro ⟨⟩
          · exact told _ fun _ _ _ _ => trivial
        | apply command =>
          simp only [respond]
          split
          · rename_i refused
            rintro ⟨rfl⟩
            obtain impossible | impossible | ⟨_, impossible⟩ :=
              effect_error (apply_eq_error refused)
            all_goals cases impossible
          · rintro ⟨⟩ }
  exact (notify_keeps borne fun _ _ _ _ => trivial).1

end Engine

end TurtleScript
