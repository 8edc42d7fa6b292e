import Mathlib.Data.List.Induction
import TurtleScript.Proofs.Lifecycle
import TurtleScript.Proofs.Showings

/-!
Whose subscriptions are in force. Every subscription has a ticket of its own, but what is kept in
force is a list of names, and a ticket gives up the first entry of its observer. As long as every
ticket is used once this is as good as its own entry. A ticket that is used again while its observer
has another subscription takes that one away, and this is the only way for an observer to be told
less often than it has subscriptions left.
-/
namespace TurtleScript

/-! ## The ledger -/

/-- Subscribing an observer, or using the ticket of a subscription to give it up. -/
inductive Enrolment where
  | subscribe (name : String) (reactions : List Reaction)
  | giveUp (ticket : Nat)

def Enrolment.operation : Enrolment → Operation
  | .subscribe name reactions => .subscribe name reactions
  | .giveUp ticket => .unsubscribe ticket

/-- A subscription that was made: whose it is, and whether its own ticket has ever been used. -/
structure Subscription where
  name : String
  givenUp : Bool
deriving DecidableEq

/-- The subscriptions that were made, in the order of their tickets. -/
def Enrolment.enter (made : List Subscription) : Enrolment → List Subscription
  | .subscribe name _ => made ++ [⟨name, false⟩]
  | .giveUp ticket =>
    match made[ticket]? with
    | some own => made.set ticket ⟨own.name, true⟩
    | none => made

/-- What is written down of changes, beginning with no subscription. -/
def ledger (changes : List Enrolment) : List Subscription :=
  changes.foldl Enrolment.enter []

/-- How many subscriptions of an observer there are whose own tickets have never been used. -/
def heldBy (name : String) (made : List Subscription) : Nat :=
  made.count ⟨name, false⟩

/-- A ticket is used again while its observer has a subscription in force. -/
def Enrolment.Overreaches (change : Enrolment) (made : List Subscription) (o : Observers) : Prop :=
  ∃ ticket name, change = .giveUp ticket ∧ made[ticket]? = some ⟨name, true⟩ ∧ name ∈ o.subscribed

theorem ledger_snoc (changes : List Enrolment) (change : Enrolment) :
    ledger (changes ++ [change]) = change.enter (ledger changes) := by
  simp [ledger]

/-! ## One change -/

/-- The observers after a change. -/
def Observers.enrol (o : Observers) : Enrolment → Observers
  | .subscribe name reactions => o.subscribe name reactions
  | .giveUp ticket => o.unsubscribe ticket

/-- The tickets that were given out are those of the ledger, and nobody is subscribed more often
than the ledger says. -/
structure Observers.Enlists (o : Observers) (made : List Subscription) : Prop where
  tickets : o.tickets = made.map Subscription.name
  atMost : ∀ name, o.subscribed.count name ≤ heldBy name made

/-- Everybody is subscribed exactly as often as the ledger says. -/
def Observers.Agrees (o : Observers) (made : List Subscription) : Prop :=
  ∀ name, o.subscribed.count name = heldBy name made

section Changes

variable {o : Observers} {made : List Subscription}

theorem heldBy_append (name other : String) :
    heldBy name (made ++ [⟨other, false⟩]) = heldBy name made + if other = name then 1 else 0 := by
  by_cases same : other = name
  · simp [heldBy, same]
  · simp [heldBy, same]

/-- A ticket counts the first time that it is used. -/
theorem heldBy_set {ticket : Nat} {own : Subscription} (listed : made[ticket]? = some own)
    (name : String) : heldBy name (made.set ticket ⟨own.name, true⟩) =
      heldBy name made - if own = ⟨name, false⟩ then 1 else 0 := by
  obtain ⟨inside, rfl⟩ := List.getElem?_eq_some_iff.mp listed
  simp [heldBy, List.count_set inside]

/-- What using a ticket does, by whether it was given out. -/
theorem Observers.Enlists.unsubscribe (enlists : o.Enlists made) (ticket : Nat) :
    o.unsubscribe ticket = match made[ticket]? with
      | some own => { o with subscribed := o.subscribed.erase own.name }
      | none => o := by
  unfold Observers.unsubscribe
  rw [enlists.tickets, List.getElem?_map]
  cases made[ticket]? <;> rfl

/-- A change keeps the tickets in step with the ledger and nobody subscribed too often. -/
theorem Observers.Enlists.enrol (enlists : o.Enlists made) (change : Enrolment) :
    (o.enrol change).Enlists (change.enter made) := by
  cases change with
  | subscribe name reactions =>
    refine ⟨by simp [Observers.enrol, Observers.subscribe, Enrolment.enter, enlists.tickets], ?_⟩
    intro other
    have before := enlists.atMost other
    simp only [Observers.enrol, Observers.subscribe, Enrolment.enter, heldBy_append,
      List.count_append, List.count_singleton, beq_iff_eq]
    omega
  | giveUp ticket =>
    simp only [Observers.enrol, enlists.unsubscribe ticket, Enrolment.enter]
    cases listed : made[ticket]? with
    | none => exact enlists
    | some own =>
      obtain ⟨inside, rfl⟩ := List.getElem?_eq_some_iff.mp listed
      refine ⟨?_, ?_⟩
      · have place : ticket < (made.map Subscription.name).length := by simpa using inside
        have same := List.set_getElem_self place
        rw [List.getElem_map] at same
        rw [List.map_set, enlists.tickets]
        exact same.symm
      · intro name
        have before := enlists.atMost name
        simp only [heldBy_set listed, List.count_erase, beq_iff_eq]
        -- A used ticket leaves the ledger alone; a fresh one counts on both sides.
        by_cases held : made[ticket] = ⟨name, false⟩
        · simp only [held, if_true]
          omega
        · rw [if_neg held]
          omega

/-- A change that does not overreach keeps the subscriptions as the ledger says. -/
theorem Observers.Agrees.enrol (agrees : o.Agrees made) (enlists : o.Enlists made)
    {change : Enrolment} (careful : ¬ change.Overreaches made o) :
    (o.enrol change).Agrees (change.enter made) := by
  intro name
  have before := agrees name
  cases change with
  | subscribe other reactions =>
    simp only [Observers.enrol, Observers.subscribe, Enrolment.enter, heldBy_append,
      List.count_append, List.count_singleton, beq_iff_eq]
    omega
  | giveUp ticket =>
    simp only [Observers.enrol, enlists.unsubscribe ticket, Enrolment.enter]
    cases listed : made[ticket]? with
    | none => exact before
    | some own =>
      simp only [heldBy_set listed, List.count_erase, beq_iff_eq]
      obtain ⟨owner, used⟩ := own
      cases used with
      | true =>
        have absent : owner ∉ o.subscribed :=
          fun present => careful ⟨ticket, owner, rfl, listed, present⟩
        by_cases same : owner = name
        · have none := List.count_eq_zero.mpr absent
          rw [same] at none
          simp only [same, Subscription.mk.injEq, Bool.true_eq_false, and_false, if_true, if_false]
          omega
        · simp [same, before]
      | false => simp [before]

/-- A change that overreaches takes a subscription away from the observer of its ticket and leaves
the ledger as it is. -/
theorem Enrolment.Overreaches.short {change : Enrolment} (overreach : change.Overreaches made o)
    (enlists : o.Enlists made) : ∃ name, name ∈ o.subscribed ∧
      (o.enrol change).subscribed = o.subscribed.erase name ∧
      heldBy name (change.enter made) = heldBy name made := by
  obtain ⟨ticket, name, rfl, listed, present⟩ := overreach
  refine ⟨name, present, ?_, ?_⟩
  · simp only [Observers.enrol, enlists.unsubscribe ticket, listed]
  · simp only [Enrolment.enter, listed]
    rw [heldBy_set listed name]
    simp

end Changes

/-! ## Sequences of changes -/

namespace Session

/-- The observers of a session after changes. -/
def enrolled (s : Session) (changes : List Enrolment) : Observers :=
  (s.performAll (changes.map Enrolment.operation)).engine.observers

theorem enrolled_snoc (s : Session) (changes : List Enrolment) (change : Enrolment) :
    s.enrolled (changes ++ [change]) = (s.enrolled changes).enrol change := by
  simp only [enrolled, performAll, List.map_append, List.foldl_append]
  cases change <;> rfl

/-- Nobody has subscribed to the engine of a session yet. -/
structure Unobserved (s : Session) : Prop where
  subscribed : s.engine.observers.subscribed = []
  tickets : s.engine.observers.tickets = []

variable {s : Session}

theorem Unobserved.enlists (unobserved : s.Unobserved) (changes : List Enrolment) :
    (s.enrolled changes).Enlists (ledger changes) := by
  induction changes using List.reverseRecOn with
  | nil =>
    refine ⟨unobserved.tickets, fun name => ?_⟩
    have none : (s.enrolled []).subscribed = [] := unobserved.subscribed
    simp [none]
  | append_singleton changes change ih =>
    rw [enrolled_snoc, ledger_snoc]
    exact ih.enrol change

/-- The subscriptions are as the ledger says at all times exactly when no change overreaches. -/
theorem Unobserved.agrees_iff (unobserved : s.Unobserved) (changes : List Enrolment) :
    (∀ first, first <+: changes → (s.enrolled first).Agrees (ledger first)) ↔
      ∀ first change, first ++ [change] <+: changes →
        ¬ change.Overreaches (ledger first) (s.enrolled first) := by
  constructor
  · intro agree first change present overreach
    obtain ⟨name, subscribed, taken, held⟩ := overreach.short (unobserved.enlists first)
    have before := agree first ((List.prefix_append first [change]).trans present) name
    have after := agree (first ++ [change]) present name
    rw [enrolled_snoc, ledger_snoc, taken, held, List.count_erase_self] at after
    have positive := List.count_pos_iff.mpr subscribed
    omega
  · intro careful first present
    induction first using List.reverseRecOn with
    | nil =>
      intro name
      have none : (s.enrolled []).subscribed = [] := unobserved.subscribed
      simp [none, ledger, heldBy]
    | append_singleton first change ih =>
      rw [enrolled_snoc, ledger_snoc]
      exact (ih ((List.prefix_append first [change]).trans present)).enrol
        (unobserved.enlists first) (careful first change present)

end Session

/-! ## Notifications -/

/-- An engine is observed by nobody at first, and then observers are subscribed and tickets are
used, in any order and any number of times. A subscription is answered with the next ticket of the
ledger. From then on, every notification that nobody makes fail shows its snapshot to an observer as
often as the observer is subscribed, and that is never more often than it has subscriptions whose
own tickets have not been used. It is exactly as often, at all times, if and only if no ticket is
ever used again while its observer has a subscription in force. -/
theorem tickets_end_own_subscriptions (s : Session) (unobserved : s.Unobserved)
    (changes : List Enrolment) :
    (∀ name reactions,
      ((s.performAll (changes.map Enrolment.operation)).perform (.subscribe name reactions)).1 =
        .ticket (ledger changes).length) ∧
    (∀ e after : Engine, e.observers.subscribed = (s.enrolled changes).subscribed →
      e.observers.Give Response.Calm → e.notify = (.ok (), after) → ∀ name,
        after.observers.shownTo name = e.observers.shownTo name ++
          List.replicate ((s.enrolled changes).subscribed.count name) e.snapshot) ∧
    (∀ name, (s.enrolled changes).subscribed.count name ≤ heldBy name (ledger changes)) ∧
    ((∀ first, first <+: changes →
        ∀ name, (s.enrolled first).subscribed.count name = heldBy name (ledger first)) ↔
      ∀ first change, first ++ [change] <+: changes →
        ¬ change.Overreaches (ledger first) (s.enrolled first)) := by
  have enlists := unobserved.enlists changes
  refine ⟨?_, ?_, enlists.atMost, unobserved.agrees_iff changes⟩
  · intro name reactions
    have given : (s.enrolled changes).tickets.length = (ledger changes).length := by
      simp [enlists.tickets]
    exact congrArg Answer.ticket given
  · intro e after subscribed give done name
    rw [← subscribed]
    exact (Engine.notify_shows_each give done name).1

private def unobservedSession : Session := .ofEngine (.placed ⟨40.0, 30.0, 0.0⟩)

private def firstOfTwo : List Enrolment :=
  [.subscribe "a" [], .subscribe "b" [], .subscribe "a" [], .giveUp 0]

private theorem firstOfTwo_careful (first : List Enrolment) (change : Enrolment)
    (present : first ++ [change] <+: firstOfTwo) :
    ¬ change.Overreaches (ledger first) (unobservedSession.enrolled first) := by
  rintro ⟨ticket, name, rfl, listed, -⟩
  obtain ⟨rest, whole⟩ := present
  -- The only ticket is used last, and all of the ledger is fresh then.
  rcases first with _ | ⟨_, _ | ⟨_, _ | ⟨_, _ | ⟨_, _ | _⟩⟩⟩⟩ <;> simp [firstOfTwo] at whole
  obtain ⟨rfl, rfl, rfl, rfl, -⟩ := whole
  simp [ledger, Enrolment.enter] at listed

/-- An observer subscribes twice, with another one in between. When its first ticket has been used
once, it has one subscription left and is shown a notification once. -/
theorem tickets_end_first_of_two :
    let e := (unobservedSession.performAll (firstOfTwo.map Enrolment.operation)).engine
    unobservedSession.Unobserved ∧ heldBy "a" (ledger firstOfTwo) = 1 ∧
      e.notify.2.observers.shownTo "a" = [e.snapshot] := by
  intro e
  have unobserved : unobservedSession.Unobserved := ⟨rfl, rfl⟩
  have held : heldBy "a" (ledger firstOfTwo) = 1 := by decide
  obtain ⟨-, shows, -, exact⟩ :=
    tickets_end_own_subscriptions unobservedSession unobserved firstOfTwo
  have count := exact.mpr firstOfTwo_careful firstOfTwo List.prefix_rfl "a"
  have calm : e.observers.Give Response.Calm := by
    have known : e.observers.reactions = [("a", []), ("b", [])] := rfl
    intro entry member reaction inside
    simp only [known, List.mem_cons, List.not_mem_nil, or_false] at member
    rcases member with rfl | rfl <;> cases inside
  have shown := shows e e.notify.2 rfl calm rfl "a"
  rw [count, held] at shown
  exact ⟨unobserved, held, shown⟩

/-- An observer subscribes twice and its first ticket is used twice. The second subscription has
never been given up, and yet a notification does not reach the observer any more. -/
theorem ticket_used_again_ends_other :
    let changes : List Enrolment := [.subscribe "a" [], .subscribe "a" [], .giveUp 0, .giveUp 0]
    let e := (unobservedSession.performAll (changes.map Enrolment.operation)).engine
    heldBy "a" (ledger changes) = 1 ∧ e.notify.1 = .ok () ∧
      e.notify.2.observers.shownTo "a" = [] :=
  ⟨by decide, rfl, rfl⟩

end TurtleScript
