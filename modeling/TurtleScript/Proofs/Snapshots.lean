import TurtleScript.Proofs.Path

/-!
Snapshots never change. A snapshot does not copy the drawing: it keeps the number of a log and how
many entries it had, and the engine goes on writing to that log. What is seen later is what was
seen when the snapshot was taken, because whatever becomes of the engine leaves every entry of
every log in its place. Views are compared entry by entry, and an entry equals itself only if none
of its places is undefined; on a canvas that is so.
-/
namespace TurtleScript

/-! ## Numbers that equal themselves -/

namespace Binary64

open Float.Model

private theorem isNaN_iff {x : UnpackedFloat} : x.isNaN = true ↔ x = .notANumber := by
  cases x with
  | notANumber => exact ⟨fun _ => rfl, fun _ => rfl⟩
  | infinity | zero | finite => exact ⟨Bool.noConfusion, UnpackedFloat.noConfusion⟩

theorem isNaN_add {x : Float} (y : Float) (undefined : x.isNaN = true) :
    (x + y).isNaN = true := by
  have unpacked : UnpackedFloat.add .binary64 x.toModel.unpack y.toModel.unpack = .notANumber := by
    rw [isNaN_iff.mp undefined]
    rfl
  change (pack (UnpackedFloat.add .binary64 x.toModel.unpack y.toModel.unpack)).isNaN = true
  rw [unpacked]
  rfl

theorem isNaN_sub {x : Float} (y : Float) (undefined : x.isNaN = true) :
    (x - y).isNaN = true := by
  have unpacked : UnpackedFloat.sub .binary64 x.toModel.unpack y.toModel.unpack = .notANumber := by
    rw [isNaN_iff.mp undefined]
    rfl
  change (pack (UnpackedFloat.sub .binary64 x.toModel.unpack y.toModel.unpack)).isNaN = true
  rw [unpacked]
  rfl

/-- What is not a number is not above anything. -/
theorem isNaN_of_le {x y : Float} (below : x ≤ y) : y.isNaN = false := by
  have incomparable (f : UnpackedFloat) : f.compare .notANumber = none := by
    cases f <;> rfl
  have compared : x.toModel.unpack.le y.toModel.unpack = true := of_decide_eq_true below
  cases undefined : y.isNaN with
  | false => rfl
  | true =>
    rw [isNaN_iff.mp undefined, UnpackedFloat.le, incomparable] at compared
    cases compared

theorem beq_self {x : Float} (defined : x.isNaN = false) : (x == x) = true := by
  have compared (f : UnpackedFloat) (number : f.isNaN = false) : f.beq f = true := by
    cases f with
    | notANumber => cases number
    | infinity sign => cases sign <;> rfl
    | zero sign => rfl
    | finite sign mantissa exponent positive =>
      have same : (compare exponent exponent).then (compare mantissa mantissa) = .eq := by simp
      cases sign with
      | positive => exact congrArg (some · == some Ordering.eq) same
      | negative => exact congrArg (some ·.swap == some Ordering.eq) same
  exact compared _ defined

end Binary64

/-! ## Views -/

/-- The item at an index of a list; a negative index counts from the end. -/
def itemAt? {α : Type} (items : List α) : Int → Option α
  | .ofNat place => items[place]?
  | .negSucc place => items.reverse[place]?

theorem sameDrawing_iff {entries others : List Instruction} :
    sameDrawing entries others = true ↔
      List.Forall₂ (fun a b => a.same b = true) entries others := by
  fun_induction sameDrawing entries others with
  | case1 => simp
  | case2 a as b bs ih => simp [ih]
  | case3 entries others notEmpty notBoth =>
    refine ⟨Bool.noConfusion, ?_⟩
    rintro (_ | _)
    · exact (notEmpty rfl rfl).elim
    · exact (notBoth _ _ _ _ rfl rfl).elim

namespace View

/-- What is seen through a view, in each way to look at it: by its length, as a whole, at every
index, and compared with other drawings. -/
structure Shows (v : View) (d : Drawings) (entries : List Instruction) : Prop where
  length : v.length = entries.length
  items : v.items d = entries
  get : ∀ index, v.get? d index = itemAt? entries index
  same : ∀ others, sameDrawing (v.items d) others = true ↔
    List.Forall₂ (fun a b => a.same b = true) entries others

theorem getElem?_items (v : View) (d : Drawings) (place : Nat) :
    (v.items d)[place]? = if place < v.length then (d.log v.log)[place]? else none := by
  by_cases inside : place < v.length
  · simp only [items, Array.getElem?_toList, Array.getElem?_extract, inside, if_true]
    split
    · simp
    · rename_i outside
      simp only [Nat.sub_zero] at outside
      rw [Array.getElem?_eq_none (by omega)]
  · rw [if_neg inside]
    refine List.getElem?_eq_none ?_
    simp only [items, Array.length_toList, Array.size_extract]
    omega

/-- A view whose log has the entries that it counts is indexed like the list of its items. -/
theorem get?_items {v : View} {d : Drawings} (full : (v.items d).length = v.length)
    (index : Int) : v.get? d index = itemAt? (v.items d) index := by
  cases index with
  | ofNat place =>
    have counted : ¬ (place : Int) < 0 := by omega
    rw [itemAt?, getElem?_items]
    simp [get?, counted]
  | negSucc place =>
    have negative : Int.negSucc place < 0 := by omega
    rw [itemAt?]
    by_cases inside : place < v.length
    · have counted : Int.negSucc place + (v.length : Int) = (v.length - 1 - place : Nat) := by
        omega
      have before : v.length - 1 - place < v.length := by omega
      rw [List.getElem?_reverse (by omega), full, getElem?_items, if_pos before]
      simp [get?, negative, counted, before]
    · have outside : Int.negSucc place + (v.length : Int) < 0 := by omega
      rw [List.getElem?_eq_none (by rw [List.length_reverse]; omega)]
      simp [get?, negative, outside]

end View

/-- A view of all that was drawn shows that, in every store where no entry was lost. -/
theorem Drawings.Extends.shows {d later : Drawings} (extended : d.Extends later) :
    (View.ofCurrent d).Shows later d.current.toList := by
  have items : (View.ofCurrent d).items later = d.current.toList := by
    apply List.ext_getElem?
    intro place
    rw [View.getElem?_items]
    by_cases inside : place < d.current.size
    · have kept := extended d.currentLog place (d.current[place])
      rw [Array.getElem?_toList, Array.getElem?_eq_getElem inside]
      rw [if_pos (show place < (View.ofCurrent d).length from inside)]
      exact kept (by simp [log, inside])
    · rw [if_neg (show ¬ place < (View.ofCurrent d).length from inside)]
      exact (List.getElem?_eq_none (by simpa using inside)).symm
  have full : ((View.ofCurrent d).items later).length = (View.ofCurrent d).length := by
    rw [items, Array.length_toList]
    rfl
  exact
    { length := by rw [← full, items]
      items := items
      get := fun index => by rw [View.get?_items full, items]
      same := fun others => by rw [items, sameDrawing_iff] }

/-! ## Drawings that equal themselves -/

theorem PenSize.same_self (p : PenSize) : p.same p = true := by
  cases undefined : p.value.isNaN with
  | true => simp only [PenSize.same, undefined, beq_self_eq_true, Bool.and_self, Bool.or_true]
  | false => simp only [PenSize.same, Binary64.beq_self undefined, Bool.true_or]

theorem Instruction.same_self {i : Instruction} (starts : i.start.same i.start = true)
    (ends : i.finish.same i.finish = true) : i.same i = true := by
  simp [Instruction.same, starts, ends, PenSize.same_self]

namespace Engine

variable {e a b : Engine}

/-- Each entry of the drawing equals itself. -/
def Legible (e : Engine) : Prop := ∀ entry ∈ e.drawing, entry.same entry = true

theorem Legible.same_self (legible : e.Legible) : sameDrawing e.drawing e.drawing = true :=
  sameDrawing_iff.mpr (List.forall₂_same.mpr legible)

theorem create_legible {setup : Setup} (created : create setup = .ok e) : e.Legible := by
  unfold create at created
  repeat' split at created
  all_goals cases created
  intro entry member
  cases member

theorem within_same {p : Point} (inside : e.within p = true) : p.same p = true := by
  simp only [within, Bool.and_eq_true, decide_eq_true_eq] at inside
  obtain ⟨⟨⟨across, -⟩, down⟩, -⟩ := inside
  simp only [Point.same, Binary64.beq_self (Binary64.isNaN_of_le across),
    Binary64.beq_self (Binary64.isNaN_of_le down), Bool.and_self]

private theorem destination_eq {c : Command} {p : Point} (leads : e.destination c = .ok p) :
    ∃ across down, p = ⟨e.turtle.pose.x + across, e.turtle.pose.y - down⟩ := by
  unfold destination at leads
  cases given : c.value with
  | none => simp [given] at leads
  | some value =>
    simp only [given] at leads
    split at leads
    · cases leads
    · split at leads <;> cases leads
      exact ⟨_, _, rfl⟩

/-- From a place that is undefined no movement leads to the canvas. -/
theorem destination_same {c : Command} {p : Point} (leads : e.destination c = .ok p)
    (inside : e.within p = true) : e.turtle.pose.point.same e.turtle.pose.point = true := by
  obtain ⟨across, down, rfl⟩ := destination_eq leads
  simp only [within, Bool.and_eq_true, decide_eq_true_eq] at inside
  obtain ⟨⟨⟨right, -⟩, below⟩, -⟩ := inside
  have x : e.turtle.pose.x.isNaN = false := by
    refine Bool.eq_false_iff.mpr fun undefined => ?_
    have defined := Binary64.isNaN_of_le right
    rw [Binary64.isNaN_add across undefined] at defined
    cases defined
  have y : e.turtle.pose.y.isNaN = false := by
    refine Bool.eq_false_iff.mpr fun undefined => ?_
    have defined := Binary64.isNaN_of_le below
    rw [Binary64.isNaN_sub down undefined] at defined
    cases defined
  simp only [Point.same, Pose.point, Binary64.beq_self x, Binary64.beq_self y, Bool.and_self]

private theorem commit_legible {c : Command} {effect : Effect} (found : e.effect c = .ok effect)
    (legible : e.Legible) : (e.commit effect).Legible := by
  cases effect with
  | move p =>
    obtain ⟨-, leads, inside⟩ := effect_move found
    obtain ⟨entry, drawn, starts, ends⟩ := e.moveTo_drawing p
    intro other member
    rw [commit, drawn] at member
    rcases List.mem_append.mp member with old | new
    · exact legible other old
    · rw [List.mem_singleton.mp new]
      refine Instruction.same_self ?_ ?_
      · rw [starts]
        exact destination_same leads inside
      · rw [ends]
        exact within_same inside
  | blocked | turn | pen | color => exact legible
  | clear =>
    intro entry member
    cases member

theorem Change.legible (change : a.Change b) (legible : a.Legible) : b.Legible := by
  cases change with
  | effect found => exact commit_legible found legible
  | restart =>
    intro entry member
    cases member
  | setColor | setPenSize => exact legible
  | aside same =>
    have drawing : b.drawing = a.drawing := by simp [Engine.drawing, same.drawings]
    simpa [Legible, drawing] using legible

/-- Whatever becomes of an engine, each entry of its drawing equals itself. -/
theorem Becomes.legible (becomes : a.Becomes b) : a.Legible → b.Legible :=
  becomes.lift (fun a b => a.Legible → b.Legible) (fun _ legible => legible)
    (fun first second legible => second (first legible)) Change.legible

/-- The snapshot of an engine shows what was drawn when it was taken, whatever becomes of the
engine. -/
theorem Becomes.shows (becomes : a.Becomes b) : a.snapshot.drawing.Shows b.drawings a.drawing :=
  becomes.draws.logs.shows

end Engine

/-! ## Snapshots never change -/

/-- A new engine under operations in any order, with observers that act and fail as they like. A
snapshot that is taken between two operations has the turtle of that moment, and through every
later operation its view shows the drawing of that moment, which equals itself. So it is with each
snapshot that any observer was ever shown, inside runs and resets: it is that of an engine on the
way, and still shows what was drawn there. -/
theorem snapshots_never_change (setup : Setup) (engine : Engine)
    (created : Engine.create setup = .ok engine) (prior operations : List Operation) :
    let taken := ((Session.ofEngine engine).performAll prior).engine
    let later := (((Session.ofEngine engine).performAll prior).performAll operations).engine
    taken.snapshot.turtle = taken.turtle ∧
    taken.snapshot.drawing.Shows later.drawings taken.drawing ∧
    sameDrawing (taken.snapshot.drawing.items later.drawings) taken.drawing = true ∧
    ∀ name snapshot, .shown name snapshot ∈ later.observers.events →
      ∃ moment : Engine, engine.Becomes moment ∧ moment.Becomes later ∧
        snapshot = moment.snapshot ∧ snapshot.turtle = moment.turtle ∧
        snapshot.drawing.Shows later.drawings moment.drawing ∧
        sameDrawing (snapshot.drawing.items later.drawings) moment.drawing = true := by
  intro taken later
  have legible := Engine.create_legible created
  have before := (Session.ofEngine engine).performAll_evolves prior
  have after := ((Session.ofEngine engine).performAll prior).performAll_evolves operations
  have shows := after.becomes.shows
  refine ⟨rfl, shows, ?_, ?_⟩
  · rw [shows.items]
    exact (before.becomes.legible legible).same_self
  · intro name snapshot told
    have untold : engine.observers.events = #[] := by
      rw [Engine.create_nobody created]
      rfl
    rcases (before.trans after).shown name snapshot told with never | ⟨moment, own, since, onward⟩
    · rw [show (Session.ofEngine engine).engine = engine from rfl, untold] at never
      simp at never
    · subst own
      refine ⟨moment, since, onward, rfl, rfl, onward.shows, ?_⟩
      rw [onward.shows.items]
      exact (since.legible legible).same_self

private def ahead : Command := ⟨.forward, some (.real 10.0), [], 1, 1⟩

private def wipe : Command := ⟨.clear, none, [], 1, 1⟩

/-- A snapshot is taken after a movement; the drawing is then emptied by a run that is watched,
drawn on, and given up by a reset. -/
theorem snapshots_never_change_after_clear :
    let engine := Engine.placed ⟨400.0, 300.0, 0.0⟩
    let moved := (Session.ofEngine engine).performAll [.apply ahead]
    let later := (moved.performAll [.subscribe "viewer" [⟨1, .color "red"⟩],
      .start [ahead, wipe, ahead] [], .resume 2, .setPenSize 5.0, .finish, .reset none]).engine
    Engine.create { start := some ⟨400.0, 300.0, 0.0⟩ } = .ok engine ∧
    moved.engine.snapshot.drawing.Shows later.drawings moved.engine.drawing ∧
    sameDrawing (moved.engine.snapshot.drawing.items later.drawings) moved.engine.drawing = true := by
  have created := Engine.create_placed ⟨400.0, 300.0, 0.0⟩
  obtain ⟨-, shows, same, -⟩ := snapshots_never_change _ _ created [.apply ahead]
    [.subscribe "viewer" [⟨1, .color "red"⟩], .start [ahead, wipe, ahead] [], .resume 2,
      .setPenSize 5.0, .finish, .reset none]
  exact ⟨created, shows, same⟩

end TurtleScript
