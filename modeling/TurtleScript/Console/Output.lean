/-!
What a program prints, on its two streams. Output is only ever appended to.
-/
namespace TurtleScript

/-- Text for the output stream and text for the error stream. -/
structure Output where
  /-- Text for the output stream. -/
  out : String
  /-- Text for the error stream. -/
  err : String
deriving Repr, DecidableEq

namespace Output

/-- No output. -/
def nothing : Output := ⟨"", ""⟩

/-- A text on the output stream. -/
def text (s : String) : Output := ⟨s, ""⟩

/-- A line on the output stream. -/
def line (s : String) : Output := ⟨s ++ "\n", ""⟩

/-- A line on the error stream. -/
def errorLine (s : String) : Output := ⟨"", s ++ "\n"⟩

/-- One output after another. -/
def append (a b : Output) : Output := ⟨a.out ++ b.out, a.err ++ b.err⟩

instance : Append Output := ⟨append⟩

@[simp] theorem out_append (a b : Output) : (a ++ b).out = a.out ++ b.out := rfl

@[simp] theorem err_append (a b : Output) : (a ++ b).err = a.err ++ b.err := rfl

@[ext] theorem ext {a b : Output} (out : a.out = b.out) (err : a.err = b.err) : a = b := by
  cases a
  cases b
  cases out
  cases err
  rfl

@[simp] theorem nothing_append (a : Output) : nothing ++ a = a := by
  ext1 <;> simp [nothing]

@[simp] theorem append_nothing (a : Output) : a ++ nothing = a := by
  ext1 <;> simp [nothing]

theorem append_assoc (a b c : Output) : a ++ b ++ c = a ++ (b ++ c) := by
  ext1 <;> simp [String.append_assoc]

/-- Lines on the output stream. -/
def lines (parts : List String) : Output :=
  parts.foldl (fun output part => output ++ line part) nothing

/-- Lines on the error stream. -/
def errorLines (parts : List String) : Output :=
  parts.foldl (fun output part => output ++ errorLine part) nothing

end Output

end TurtleScript
