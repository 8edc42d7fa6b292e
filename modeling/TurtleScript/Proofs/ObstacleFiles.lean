import Mathlib.Data.List.Forall2
import TurtleScript.Console.Launch

/-!
Bad obstacle files are reported. The conversion of a field to a number fails in several ways, and
two places in the program turn failures into a line on the error stream and an exit code. All but
one are caught: a whole number beyond the double-precision range is no wrong value to either of
them, and ends the program abruptly.
-/
namespace TurtleScript

/-! ## Records -/

/-- A fault of value. One of magnitude is not told as such. -/
def ObstacleFault.isValue : ObstacleFault → Bool
  | .tooLarge => false
  | _ => true

/-- A record names a kind: in its field `kind`, else in its field `type`, else it is a wall. -/
def NamesKind (fields : List (String × Value)) (kind : ObstacleKind) : Prop :=
  kind ∈ [ObstacleKind.wall, .goal, .hazard] ∧
    (fields.lookup "kind" = some (.text kind.name) ∨
      fields.lookup "kind" = none ∧
        (fields.lookup "type" = some (.text kind.name) ∨
          fields.lookup "type" = none ∧ kind = .wall))

/-- A field of a record denotes a number. -/
def Measures (fields : List (String × Value)) (name : String) (x : Float) : Prop :=
  ∃ value, fields.lookup name = some value ∧ value.toFloat = .ok x

/-- A field of a record is a whole number beyond the double-precision range. -/
def TooLargeAt (fields : List (String × Value)) (name : String) : Prop :=
  ∃ n, fields.lookup name = some (.number (.whole n)) ∧ (Binary64.ofInt n).isFinite = false

/-- A record describes an obstacle. -/
structure Describes (fields : List (String × Value)) (o : Obstacle) : Prop where
  kind : NamesKind fields o.kind
  x : Measures fields "x" o.x
  y : Measures fields "y" o.y
  width : Measures fields "width" o.width
  height : Measures fields "height" o.height

/-- The number fields of an obstacle, in the order in which they are read. -/
def numberFields : List String := ["x", "y", "width", "height"]

/-- The first number field that denotes no number is too large, and the kind is no obstacle to
finding that out. -/
def Overflows (fields : List (String × Value)) : Prop :=
  (∃ kind, NamesKind fields kind) ∧
    ∃ earlier name later, numberFields = earlier ++ name :: later ∧
      (∀ other ∈ earlier, ∃ x, Measures fields other x) ∧ TooLargeAt fields name

variable {fields : List (String × Value)}

private theorem mapError_ok {ε δ α : Type} (wrap : ε → δ) (a : α) :
    (Except.ok a).mapError wrap = .ok a := rfl

private theorem mapError_error {ε δ α : Type} (wrap : ε → δ) (fault : ε) :
    (Except.error fault : Except ε α).mapError wrap = .error (wrap fault) := rfl

private theorem bind_eq_ok {ε α β : Type} {first : Except ε α} {next : α → Except ε β} {b : β} :
    first >>= next = .ok b ↔ ∃ a, first = .ok a ∧ next a = .ok b := by
  cases first <;> simp [bind, Except.bind]

private theorem bind_eq_error {ε α β : Type} {first : Except ε α} {next : α → Except ε β}
    {fault : ε} : first >>= next = .error fault ↔
      first = .error fault ∨ ∃ a, first = .ok a ∧ next a = .error fault := by
  cases first <;> simp [bind, Except.bind]

private theorem known?_eq_some_iff (name : String) (kind : ObstacleKind) :
    ObstacleKind.known? name = some kind ↔
      kind ∈ [ObstacleKind.wall, .goal, .hazard] ∧ kind.name = name := by
  constructor
  · intro found
    have named := List.find?_some found
    exact ⟨List.mem_of_find?_eq_some found, by simpa using named⟩
  · rintro ⟨member, rfl⟩
    simp only [List.mem_cons, List.not_mem_nil, or_false] at member
    rcases member with rfl | rfl | rfl <;> rfl

private theorem obstacleKind_of_given (given : Value)
    (found : (fields.lookup "kind").getD ((fields.lookup "type").getD (.text "wall")) = given)
    {kind : ObstacleKind} :
    obstacleKind fields = .ok kind ↔
      kind ∈ [ObstacleKind.wall, .goal, .hazard] ∧ given = .text kind.name := by
  unfold obstacleKind
  rw [found]
  cases given with
  | text name =>
    have named := known?_eq_some_iff name kind
    cases known : ObstacleKind.known? name with
    | none =>
      rw [known] at named
      simpa [known, eq_comm] using named
    | some other =>
      rw [known] at named
      simpa [known, eq_comm] using named
  | _ => simp

theorem obstacleKind_ok_iff {kind : ObstacleKind} :
    obstacleKind fields = .ok kind ↔ NamesKind fields kind := by
  unfold NamesKind
  cases own : fields.lookup "kind" with
  | some value =>
    rw [obstacleKind_of_given value (by simp [own])]
    simp
  | none =>
    cases other : fields.lookup "type" with
    | some value =>
      rw [obstacleKind_of_given value (by simp [own, other])]
      simp
    | none =>
      rw [obstacleKind_of_given (.text "wall") (by simp [own, other])]
      refine and_congr_right fun known => ?_
      simp only [List.mem_cons, List.not_mem_nil, or_false] at known
      rcases known with rfl | rfl | rfl <;> simp [ObstacleKind.name]

theorem obstacleKind_error {fault : ObstacleFault} (refused : obstacleKind fields = .error fault) :
    fault.isValue = true := by
  unfold obstacleKind at refused
  dsimp only at refused
  split at refused
  · cases refused
  · cases refused
    unfold ObstacleFault.ofUnknown
    split <;> rfl

theorem obstacleField_ok_iff {name : String} {x : Float} :
    obstacleField fields name = .ok x ↔ Measures fields name x := by
  unfold obstacleField Measures
  cases given : fields.lookup name with
  | none => simp
  | some value =>
    cases measured : value.toFloat with
    | ok y => simp [measured]
    | error fault => cases fault <;> simp [measured]

/-- Only a whole number is too large. -/
theorem toFloat_number_iff (value : Value) :
    (∃ fault, value.toFloat = .error (.number fault)) ↔
      ∃ n, value = .number (.whole n) ∧ (Binary64.ofInt n).isFinite = false := by
  cases value with
  | number n =>
    cases n with
    | real x => simp [Value.toFloat, Number.toFloat, mapError_ok]
    | whole n =>
      cases finite : (Binary64.ofInt n).isFinite <;>
        simp [Value.toFloat, Number.toFloat, mapError_ok, mapError_error, finite]
  | text s => cases read : Reading.real s <;>
      simp [Value.toFloat, mapError_ok, mapError_error, read]
  | null | bool | list | record => simp [Value.toFloat]

theorem obstacleField_tooLarge_iff {name : String} :
    obstacleField fields name = .error .tooLarge ↔ TooLargeAt fields name := by
  unfold obstacleField TooLargeAt
  cases given : fields.lookup name with
  | none => simp
  | some value =>
    have large := toFloat_number_iff value
    cases measured : value.toFloat with
    | ok x => simpa [measured] using large
    | error fault => cases fault <;> simpa [measured] using large

/-- What is wrong with a number field, if anything is. -/
def fieldFault? (fields : List (String × Value)) (name : String) : Option ObstacleFault :=
  match obstacleField fields name with
  | .ok _ => none
  | .error fault => some fault

theorem ofFields_ok_iff {o : Obstacle} : Obstacle.ofFields fields = .ok o ↔ Describes fields o := by
  constructor
  · intro read
    unfold Obstacle.ofFields at read
    obtain ⟨kind, named, read⟩ := bind_eq_ok.mp read
    obtain ⟨x, across, read⟩ := bind_eq_ok.mp read
    obtain ⟨y, down, read⟩ := bind_eq_ok.mp read
    obtain ⟨width, wide, read⟩ := bind_eq_ok.mp read
    obtain ⟨height, high, read⟩ := bind_eq_ok.mp read
    cases read
    exact ⟨obstacleKind_ok_iff.mp named, obstacleField_ok_iff.mp across,
      obstacleField_ok_iff.mp down, obstacleField_ok_iff.mp wide, obstacleField_ok_iff.mp high⟩
  · intro described
    unfold Obstacle.ofFields
    rw [obstacleKind_ok_iff.mpr described.kind, obstacleField_ok_iff.mpr described.x,
      obstacleField_ok_iff.mpr described.y, obstacleField_ok_iff.mpr described.width,
      obstacleField_ok_iff.mpr described.height]
    rfl

example : Obstacle.ofFields [("type", .text "goal"), ("x", .bool true), ("y", .bool false),
    ("width", .bool true), ("height", .bool true)] = .ok ⟨1.0, 0.0, 1.0, 1.0, .goal⟩ := rfl

/-- A record is refused for its kind, or for the first number field with which something is
wrong. -/
theorem ofFields_error_iff {fault : ObstacleFault} :
    Obstacle.ofFields fields = .error fault ↔
      obstacleKind fields = .error fault ∨
        (∃ kind, obstacleKind fields = .ok kind) ∧
          numberFields.findSome? (fieldFault? fields) = some fault := by
  simp only [Obstacle.ofFields, bind_eq_error, numberFields, List.findSome?_cons, fieldFault?]
  cases obstacleKind fields with
  | error fault => simp
  | ok kind =>
    cases obstacleField fields "x" with
    | error fault => simp
    | ok x =>
      cases obstacleField fields "y" with
      | error fault => simp
      | ok y =>
        cases obstacleField fields "width" with
        | error fault => simp
        | ok width =>
          cases obstacleField fields "height" with
          | error fault => simp
          | ok height => simp [pure, Except.pure]

private theorem fieldFault?_eq_none_iff {name : String} :
    fieldFault? fields name = none ↔ ∃ x, Measures fields name x := by
  simp only [← obstacleField_ok_iff, fieldFault?]
  cases obstacleField fields name <;> simp

private theorem fieldFault?_tooLarge_iff {name : String} :
    fieldFault? fields name = some .tooLarge ↔ TooLargeAt fields name := by
  rw [← obstacleField_tooLarge_iff, fieldFault?]
  cases obstacleField fields name <;> simp

/-- A record is refused for a magnitude exactly where its fields overflow. -/
theorem ofFields_tooLarge_iff :
    Obstacle.ofFields fields = .error .tooLarge ↔ Overflows fields := by
  have kinds : obstacleKind fields ≠ .error .tooLarge := by
    intro refused
    cases obstacleKind_error refused
  simp only [ofFields_error_iff, kinds, false_or, obstacleKind_ok_iff, Overflows,
    List.findSome?_eq_some_iff, fieldFault?_eq_none_iff, fieldFault?_tooLarge_iff]
  refine and_congr_right fun _ => ?_
  constructor
  · rintro ⟨earlier, name, later, split, large, measured⟩
    exact ⟨earlier, name, later, split, measured, large⟩
  · rintro ⟨earlier, name, later, split, measured, large⟩
    exact ⟨earlier, name, later, split, large, measured⟩

/-! ## Files -/

/-- An item of a list is a record that describes an obstacle. -/
def ItemDescribes (item : Value) (o : Obstacle) : Prop :=
  ∃ fields, item = .record fields ∧ Describes fields o

/-- The first item of a list that describes no obstacle is a record that overflows. -/
def OverflowsIn (items : List Value) : Prop :=
  ∃ earlier fields later, items = earlier ++ .record fields :: later ∧
    (∀ item ∈ earlier, ∃ o, ItemDescribes item o) ∧ Overflows fields

private theorem obstaclesFrom_record_ok (index : Nat) {rest : List Value}
    {obstacles : List Obstacle} :
    obstaclesFrom index (.record fields :: rest) = .ok obstacles ↔
      ∃ o others, Describes fields o ∧ obstaclesFrom (index + 1) rest = .ok others ∧
        obstacles = o :: others := by
  simp only [obstaclesFrom, ← ofFields_ok_iff]
  cases Obstacle.ofFields fields with
  | error fault => simp
  | ok o =>
    cases obstaclesFrom (index + 1) rest with
    | error fault => simp [Except.map]
    | ok others => simp [Except.map, eq_comm]

/-- The obstacles of a list are those that its items describe, in order. -/
theorem obstaclesFrom_ok_iff (index : Nat) {items : List Value} {obstacles : List Obstacle} :
    obstaclesFrom index items = .ok obstacles ↔ List.Forall₂ ItemDescribes items obstacles := by
  induction items generalizing index obstacles with
  | nil => simp [obstaclesFrom, eq_comm]
  | cons item rest ih =>
    cases item with
    | record fields =>
      simp [obstaclesFrom_record_ok, ih, List.forall₂_cons_left_iff, ItemDescribes]
    | _ => simp [obstaclesFrom, List.forall₂_cons_left_iff, ItemDescribes]

private theorem obstaclesFrom_record_tooLarge (index : Nat) {rest : List Value} :
    obstaclesFrom index (.record fields :: rest) = .error (.obstacle .tooLarge) ↔
      Overflows fields ∨ (∃ o, Describes fields o) ∧
        obstaclesFrom (index + 1) rest = .error (.obstacle .tooLarge) := by
  simp only [obstaclesFrom, ← ofFields_ok_iff, ← ofFields_tooLarge_iff]
  cases Obstacle.ofFields fields with
  | error fault => simp
  | ok o => cases obstaclesFrom (index + 1) rest <;> simp [Except.map]

/-- A list is refused for a magnitude exactly where the first of its items that is no obstacle
overflows. -/
theorem obstaclesFrom_tooLarge_iff (index : Nat) {items : List Value} :
    obstaclesFrom index items = .error (.obstacle .tooLarge) ↔ OverflowsIn items := by
  induction items generalizing index with
  | nil => simp [obstaclesFrom, OverflowsIn]
  | cons item rest ih =>
    cases item with
    | record fields =>
      rw [obstaclesFrom_record_tooLarge, ih]
      constructor
      · rintro (overflows | ⟨⟨o, described⟩, earlier, others, later, rfl, before, overflows⟩)
        · exact ⟨[], fields, rest, rfl, by simp, overflows⟩
        · refine ⟨.record fields :: earlier, others, later, rfl, ?_, overflows⟩
          intro item member
          rcases List.mem_cons.mp member with rfl | further
          · exact ⟨o, fields, rfl, described⟩
          · exact before item further
      · rintro ⟨earlier, others, later, split, before, overflows⟩
        cases earlier with
        | nil =>
          cases split
          exact .inl overflows
        | cons first earlier =>
          cases split
          obtain ⟨o, same, own, described⟩ := before (.record fields) (by simp)
          cases own
          exact .inr ⟨⟨o, described⟩, earlier, others, later, rfl,
            fun item member => before item (by simp [member]), overflows⟩
    | _ =>
      simp only [obstaclesFrom, Except.error.injEq, reduceCtorEq, false_iff]
      rintro ⟨earlier, others, later, split, before, -⟩
      cases earlier with
      | nil => cases split
      | cons first earlier =>
        cases split
        obtain ⟨o, same, own, -⟩ := before _ List.mem_cons_self
        cases own

/-- A file holds a list of which the first item that is no obstacle overflows. -/
def Files.Overflows (files : Files) (path : String) : Prop :=
  ∃ text items, files.readText path = .ok text ∧ Json.read text = .ok (.list items) ∧
    OverflowsIn items

theorem readObstacles_ok_iff {files : Files} {path : String} {obstacles : List Obstacle} :
    files.readObstacles path = .ok obstacles ↔
      ∃ text items, files.readText path = .ok text ∧ Json.read text = .ok (.list items) ∧
        List.Forall₂ ItemDescribes items obstacles := by
  simp only [Files.readObstacles, Files.readValue, ← obstaclesFrom_ok_iff 0]
  cases files.readText path with
  | error fault => simp
  | ok text =>
    cases parsed : Json.read text with
    | error fault => simp [mapError_error, parsed]
    | ok value => cases value <;> simp [mapError_ok, parsed, obstaclesOf]

theorem readObstacles_tooLarge_iff {files : Files} {path : String} :
    files.readObstacles path = .error (.obstacle .tooLarge) ↔ files.Overflows path := by
  simp only [Files.readObstacles, Files.readValue, Files.Overflows,
    ← obstaclesFrom_tooLarge_iff 0]
  cases files.readText path with
  | error fault => simp
  | ok text =>
    cases parsed : Json.read text with
    | error fault => simp [mapError_error, parsed]
    | ok value => cases value <;> simp [mapError_ok, parsed, obstaclesOf]

/-! ## Launches -/

/-- What is looked at before the obstacles can be used: the alias file and the start. -/
def Settings.Ready (s : Settings) (files : Files) : Prop :=
  (∃ aliases, whenGiven s.sugar AliasTable.standard
    (AliasTable.standard.load files) = .ok aliases) ∧
  ∃ start, whenGiven s.start none (fun text => (Pose.ofText text).map some) = .ok start

/-- A launch prints one line on the error stream and nothing else, and ends with exit code 1. -/
def Launched.Reports (launched : Launched) (message : String) : Prop :=
  launched.1 = .errorLine s!"tortuga: {message}" ∧
    ∃ status, launched.2 = .ok status ∧ status.code = 1

private theorem whenGiven_mapError {ε δ α : Type} (option : Option String) (default : α)
    (use : String → Except ε α) (wrap : ε → δ) :
    whenGiven option default (fun text => (use text).mapError wrap) =
      (whenGiven option default use).mapError wrap := by
  unfold whenGiven
  cases option with
  | none => rfl
  | some text =>
    dsimp only
    split <;> rfl

private theorem whenGiven_some {ε α : Type} {text : String} (given : text ≠ "") (default : α)
    (use : String → Except ε α) : whenGiven (some text) default use = use text := by
  simp [whenGiven, given]

/-- What settings ask for is refused for its aliases or its start, and only then for its
obstacles. -/
theorem request_refused {s : Settings} {files : Files} (source : String) {path : String}
    {fault : ObstaclesFault} (given : s.obstacles = some path) (named : path ≠ "")
    (refused : files.readObstacles path = .error fault) :
    s.Ready files ∧ s.request files source = .error (.obstacles fault) ∨
    ¬ s.Ready files ∧ ∃ other, s.request files source = .error other ∧ other.isTold = true := by
  unfold Settings.request Settings.Ready
  rw [whenGiven_mapError, given, whenGiven_some named, refused]
  have starts := whenGiven_mapError s.start none (fun text => (Pose.ofText text).map some)
    LaunchFault.start
  rw [starts]
  cases whenGiven s.sugar AliasTable.standard (AliasTable.standard.load files) with
  | error fault => exact .inr ⟨by simp, .aliases fault, rfl, rfl⟩
  | ok aliases =>
    cases whenGiven s.start none (fun text => (Pose.ofText text).map some) with
    | error fault => exact .inr ⟨by simp, .start fault, rfl, rfl⟩
    | ok start => exact .inl ⟨by simp, rfl⟩

private theorem ends_told {fault : LaunchFault} (told : fault.isTold = true) :
    Launched.Reports (fault.ends .nothing) fault.message := by
  simp only [LaunchFault.ends, told, if_true]
  exact ⟨Output.nothing_append _, .failure, rfl, rfl⟩

private theorem obstacles_told_iff {fault : ObstaclesFault} :
    (LaunchFault.obstacles fault).isTold = true ↔ fault ≠ .obstacle .tooLarge := by
  cases fault with
  | obstacle fault => cases fault <;> simp [LaunchFault.isTold]
  | _ => simp [LaunchFault.isTold]

/-! ## Bad files are reported -/

/-- A record is read exactly if it describes an obstacle of a known kind, and the numbers are those
of its fields; else it is refused for a value, unless the first field that is at fault is too large.
A file is read exactly if it is a list of such records, and gives the obstacles in order.

A launch that is given a file which is not read so reports that on the error stream with exit code
1, after its aliases and its start were looked at. Only where both can be used and the first item at
fault is too large, nothing is printed and the fault escapes. -/
theorem bad_obstacle_files_reported (files : Files) (path : String) :
    (∀ fields o, Obstacle.ofFields fields = .ok o ↔ Describes fields o) ∧
    (∀ fields fault, Obstacle.ofFields fields = .error fault →
      (fault.isValue = true ↔ ¬ Overflows fields)) ∧
    (∀ obstacles, files.readObstacles path = .ok obstacles ↔
      ∃ text items, files.readText path = .ok text ∧ Json.read text = .ok (.list items) ∧
        List.Forall₂ ItemDescribes items obstacles) ∧
    (files.readObstacles path = .error (.obstacle .tooLarge) ↔ files.Overflows path) ∧
    ∀ (aliasPath : String) (arguments input : List String) (settings : Settings)
      (source : String) (fault : ObstaclesFault),
      plan arguments = .run settings source → settings.obstacles = some path → path ≠ "" →
      files.readObstacles path = .error fault →
      let launched := launch files aliasPath arguments input
      (¬ (files.Overflows path ∧ settings.Ready files) → ∃ message, launched.Reports message ∧
        (settings.Ready files → message = fault.message)) ∧
      (files.Overflows path ∧ settings.Ready files →
        launched = (.nothing, .error (.obstacles (.obstacle .tooLarge)))) := by
  refine ⟨fun _ _ => ofFields_ok_iff, ?_, fun _ => readObstacles_ok_iff,
    readObstacles_tooLarge_iff, ?_⟩
  · intro fields fault refused
    rw [← ofFields_tooLarge_iff, refused]
    cases fault <;> simp [ObstacleFault.isValue]
  · intro aliasPath arguments input settings source fault planned given named refused launched
    have launching : launched = settings.runSource files source := by
      simp only [launched, launch, planned]
    have overflows : files.Overflows path ↔ fault = .obstacle .tooLarge := by
      rw [← readObstacles_tooLarge_iff, refused, Except.error.injEq]
    rw [launching, Settings.runSource, overflows]
    rcases request_refused source given named refused with
      ⟨ready, requested⟩ | ⟨unready, other, requested, told⟩
    · rw [requested]
      refine ⟨?_, ?_⟩
      · intro reported
        have small : fault ≠ .obstacle .tooLarge := fun large => reported ⟨large, ready⟩
        exact ⟨_, ends_told (obstacles_told_iff.mpr small), fun _ => rfl⟩
      · rintro ⟨rfl, -⟩
        rfl
    · rw [requested]
      refine ⟨?_, ?_⟩
      · intro _
        exact ⟨_, ends_told told, fun ready => (unready ready).elim⟩
      · rintro ⟨-, ready⟩
        exact (unready ready).elim

/-- A file holds a list of a number instead of records. -/
theorem bad_obstacle_files_reported_for_number :
    let files : Files := fun _ => .ok ("[1]".toUTF8.toList.map UInt8.toNat)
    files.readObstacles "walls.json" = .error (.notRecord 0) ∧
    Launched.Reports (launch files "" ["-s", "FD 1", "--obstacles", "walls.json"] [])
      "Obstacle #0 must be a JSON object" := by
  intro files
  have found : (match files.readObstacles "walls.json" with
    | .error fault => decide (fault = .notRecord 0)
    | .ok _ => false) = true := by decide +kernel
  have refused : files.readObstacles "walls.json" = .error (.notRecord 0) := by
    cases read : files.readObstacles "walls.json" with
    | error fault =>
      rw [read] at found
      exact congrArg _ (of_decide_eq_true found)
    | ok obstacles =>
      rw [read] at found
      cases found
  let settings : Settings :=
    { source := some "FD 1", isText := true, obstacles := some "walls.json" }
  have planned : plan ["-s", "FD 1", "--obstacles", "walls.json"] = .run settings "FD 1" := rfl
  have ready : settings.Ready files := ⟨⟨.standard, rfl⟩, ⟨none, rfl⟩⟩
  obtain ⟨-, -, -, overflows, launches⟩ := bad_obstacle_files_reported files "walls.json"
  obtain ⟨reported, -⟩ := launches "" _ [] settings "FD 1" _ planned rfl (by decide) refused
  have small : ¬ (files.Overflows "walls.json" ∧ settings.Ready files) := by
    rintro ⟨large, -⟩
    rw [← overflows, refused] at large
    cases large
  obtain ⟨message, reports, same⟩ := reported small
  rw [same ready] at reports
  exact ⟨refused, reports⟩

/-- A wall whose left edge is a whole number beyond the double-precision range. -/
private def farWall : List (String × Value) :=
  [("x", .number (.whole (.ofNat (tenTo 400)))), ("y", .number (.whole 0)),
    ("width", .number (.whole 1)), ("height", .number (.whole 1))]

/-- The record of a wall too far away is refused, alone and in a list, but not for a value, and a
launch that comes to that prints nothing and ends abruptly. -/
theorem far_wall_escapes :
    Obstacle.ofFields farWall = .error .tooLarge ∧ ObstacleFault.tooLarge.isValue = false ∧
    obstaclesOf (.list [.record farWall]) = .error (.obstacle .tooLarge) ∧
    (LaunchFault.obstacles (.obstacle .tooLarge)).ends .nothing =
      (.nothing, .error (.obstacles (.obstacle .tooLarge))) := by
  have infinite : (Binary64.ofInt (.ofNat (tenTo 400))).isFinite = false := by decide +kernel
  have wall : NamesKind farWall .wall := ⟨by simp, .inr ⟨rfl, .inr ⟨rfl, rfl⟩⟩⟩
  have overflows : Overflows farWall :=
    ⟨⟨.wall, wall⟩, [], "x", _, rfl, by simp, .ofNat (tenTo 400), rfl, infinite⟩
  refine ⟨ofFields_tooLarge_iff.mpr overflows, rfl, ?_, rfl⟩
  exact (obstaclesFrom_tooLarge_iff 0).mpr ⟨[], farWall, [], rfl, by simp, overflows⟩

end TurtleScript
