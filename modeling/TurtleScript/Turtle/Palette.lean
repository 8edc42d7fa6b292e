import TurtleScript.Number.Basic

/-!
The pen colors. A palette has at least one color, and an index of any size and sign names one: its
floor is counted around the palette.
-/
namespace TurtleScript

/-- The colors a program can choose from. -/
structure Palette where
  /-- The colors in order. -/
  colors : List String
  /-- There is at least one. -/
  nonempty : colors ≠ []

namespace Palette

/-- The palette of a list of colors, if there is one. -/
def ofList? (colors : List String) : Option Palette :=
  if nonempty : colors ≠ [] then some ⟨colors, nonempty⟩ else none

/-- `COLOR_PALETTE` and `COLOR_NAMES`: the sixteen colors of a new engine and their names. -/
def standardColors : List (String × String) :=
  [("#00FF00", "Bright Green"), ("#0066FF", "Blue"), ("#FF3333", "Red"), ("#FF8800", "Orange"),
    ("#8833FF", "Purple"), ("#FF33CC", "Pink"), ("#FFDD00", "Yellow"), ("#00FFFF", "Cyan"),
    ("#FF00FF", "Magenta"), ("#88FF00", "Lime"), ("#003388", "Dark Blue"),
    ("#880033", "Dark Red"), ("#228833", "Forest Green"), ("#8B4513", "Brown"),
    ("#666666", "Gray"), ("#000000", "Black")]

/-- The palette of a new engine. -/
def standard : Palette :=
  ⟨standardColors.map Prod.fst, by decide⟩

/-- The first color. -/
def first (p : Palette) : String :=
  p.colors.head p.nonempty

/-- The place of an index around the palette. -/
def slot (p : Palette) (index : Int) : Nat :=
  (Int.fmod index p.colors.length).toNat

/-- An index always has a place in the palette. -/
theorem slot_lt (p : Palette) (index : Int) : p.slot index < p.colors.length := by
  have positive : 0 < p.colors.length := List.length_pos_iff.2 p.nonempty
  have low := Int.fmod_nonneg_of_pos index (by omega : (0 : Int) < p.colors.length)
  have high := Int.fmod_lt_of_pos index (by omega : (0 : Int) < p.colors.length)
  unfold slot
  omega

/-- The color of a whole index. -/
def colorAt (p : Palette) (index : Int) : String :=
  p.colors.get ⟨p.slot index, p.slot_lt index⟩

/-- `TurtleEngine.get_color_by_index`: the color of an index; a fraction is rounded down. -/
def color (p : Palette) (index : Number) : Except NumberFault String :=
  match index.floor with
  | .error fault => .error fault
  | .ok whole => .ok (p.colorAt whole)

/-- The name of the color at a place of a palette. -/
def nameOf (place : Nat) : String :=
  match standardColors[place]? with
  | some (_, name) => name
  | none => s!"Color {place}"

/-- `TurtleEngine.palette`: the places, colors and names of a palette. -/
def entries (p : Palette) : List (Nat × String × String) :=
  p.colors.mapIdx fun place color => (place, color, nameOf place)

end Palette

end TurtleScript
