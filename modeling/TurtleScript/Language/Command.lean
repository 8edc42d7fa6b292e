import TurtleScript.Language.Kind
import TurtleScript.Number.Basic
import TurtleScript.Text.Layout

/-!
Command trees. A repetition owns a body; every other command is a leaf. A tree built by hand may
hold commands that no program text gives, and counting and flattening say what becomes of them.
-/
namespace TurtleScript

open Text

/-- A command of a program. -/
structure Command where
  /-- What it does. -/
  kind : Kind
  /-- Distance, angle, palette index or number of repetitions. -/
  value : Option Number
  /-- What a repetition repeats. -/
  body : List Command
  /-- Line of its word, zero when unknown. -/
  line : Int
  /-- Column of its word, zero when unknown. -/
  column : Int
deriving Inhabited

namespace Command

/-- `Command.is_repeat`: whether a command is a repetition. -/
def isRepeat (c : Command) : Bool :=
  c.kind = .repetition

/-- Whether two optional numbers are both absent or have the same value. -/
def sameValue : Option Number → Option Number → Bool
  | none, none => true
  | some m, some n => m.sameValue n
  | _, _ => false

mutual

/-- `Command.__eq__`: whether two commands agree in kind, value, place and body. -/
def same : Command → Command → Bool
  | ⟨kind, value, body, line, column⟩, ⟨kind', value', body', line', column'⟩ =>
    kind = kind' && sameValue value value' && line == line' && column == column' &&
      sameAll body body'

/-- Whether two bodies agree command by command. -/
def sameAll : List Command → List Command → Bool
  | [], [] => true
  | c :: cs, d :: ds => same c d && sameAll cs ds
  | _, _ => false

end

/-- The value of a command as listings show it, if it has one. -/
def shownValue : Option Number → Except NumberFault (List String)
  | none => .ok []
  | some n => n.text.map fun text => [s!"value={text}"]

/-- How many commands of a body a listing shows. -/
def shownCount : Nat := 3

/-- The body of a command as listings show it, if it has one. -/
def shownBody (size : Nat) (first : List String) : List String :=
  if size = 0 then []
  else
    let more := if size > shownCount then ", ..." else ""
    [s!"children=[{commaList first}{more}]"]

mutual

/-- `Command.__repr__`: a command as listings show it: its name, its value if it has one, and the
first commands of its body. A value that is too long to be written is a fault of the whole. -/
def shown : Command → Except NumberFault String
  | ⟨kind, value, body, _, _⟩ => do
    let own ← shownValue value
    let first ← shownFirst shownCount body
    return s!"Command({commaList (kind.name :: (own ++ shownBody body.length first))})"

/-- The first commands of a body as listings show them. -/
def shownFirst : Nat → List Command → Except NumberFault (List String)
  | 0, _ => .ok []
  | _, [] => .ok []
  | count + 1, c :: rest => do
    let text ← shown c
    let others ← shownFirst count rest
    return text :: others

end

/-- Commands as a listing shows them. -/
def shownAll (cs : List Command) : Except NumberFault String :=
  (shownFirst cs.length cs).map fun parts => s!"[{commaList parts}]"

/-! ## Repetition -/

/-- `REPEAT_MIN`: the least number of repetitions. -/
def leastCount : Int := 1

/-- `REPEAT_MAX`: the greatest number of repetitions. -/
def greatestCount : Int := 1000

/-- Whether a repetition may be run this often. -/
def countAllowed (count : Int) : Bool :=
  leastCount ≤ count && count ≤ greatestCount

/-- How often a well-formed repetition runs its body: its value is a whole number in range and its
body is not empty. -/
def repeatCount? (value : Option Number) (body : List Command) : Option Nat :=
  match value with
  | some (.whole count) =>
    if countAllowed count && !body.isEmpty then some count.toNat else none
  | _ => none

mutual

/-- `TurtleEngine.flatten`: the steps of a command: itself, or its flattened body as often as it
says. The error is the first malformed repetition that is met. -/
def flatten : Command → Except Command (List Command)
  | ⟨kind, value, body, line, column⟩ =>
    if kind = .repetition then
      match repeatCount? value body with
      | none => .error ⟨kind, value, body, line, column⟩
      | some count =>
        match flattenAll body with
        | .error bad => .error bad
        | .ok steps => .ok (List.replicate count steps).flatten
    else .ok [⟨kind, value, body, line, column⟩]

/-- The steps of commands one after the other. -/
def flattenAll : List Command → Except Command (List Command)
  | [] => .ok []
  | c :: rest =>
    match flatten c with
    | .error bad => .error bad
    | .ok first =>
      match flattenAll rest with
      | .error bad => .error bad
      | .ok steps => .ok (first ++ steps)

end

/-- How often a repetition counts its body: its value without a fraction, and not at all when it has
none. -/
def countFactor : Option Number → Except NumberFault Int
  | none => .ok 0
  | some n => if n.isZero then .ok 0 else n.trunc

mutual

/-- `TurtleEngine.count_steps`: the number of steps of a command, without expanding it. -/
def countSteps : Command → Except NumberFault Int
  | ⟨kind, value, body, _, _⟩ =>
    if kind = .repetition then
      match countFactor value with
      | .error fault => .error fault
      | .ok factor =>
        match countAll body with
        | .error fault => .error fault
        | .ok steps => .ok (factor * steps)
    else .ok 1

/-- The number of steps of commands one after the other. -/
def countAll : List Command → Except NumberFault Int
  | [] => .ok 0
  | c :: rest =>
    match countSteps c with
    | .error fault => .error fault
    | .ok first =>
      match countAll rest with
      | .error fault => .error fault
      | .ok steps => .ok (first + steps)

end

end Command

end TurtleScript
