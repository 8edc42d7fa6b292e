/-!
Programs that come with the language.
-/
namespace TurtleScript

/-- `SAMPLE_PROGRAMS`: the names and texts of the sample programs. -/
def samples : List (String × String) :=
  [("square", "REPEAT 4 [ FORWARD 100 RIGHT 90 ]"),
    ("triangle", "REPEAT 3 [ FORWARD 100 RIGHT 120 ]"),
    ("circle", "REPEAT 36 [ FORWARD 10 RIGHT 10 ]"),
    ("star", "REPEAT 5 [ FORWARD 100 RIGHT 144 ]"),
    ("spiral", "REPEAT 50 [ FORWARD 5 RIGHT 91 ]"),
    ("house", "FORWARD 100\nRIGHT 90\nFORWARD 100\nRIGHT 90\nFORWARD 100\n" ++
      "RIGHT 90\nFORWARD 100\nRIGHT 30\nFORWARD 60\nRIGHT 120\nFORWARD 60"),
    ("flower", "REPEAT 8 [\n  REPEAT 36 [ FORWARD 2 RIGHT 10 ]\n  RIGHT 45\n]")]

/-- The text of a sample program. -/
def sample? (name : String) : Option String :=
  samples.lookup name

end TurtleScript
