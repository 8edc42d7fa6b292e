import TurtleScript.Data.Json.Reader
import TurtleScript.Storage.Folder

/-!
Data files: levels and alias tables are JSON text in files.
-/
namespace TurtleScript

/-- Why a data file is not read. -/
inductive DataFault where
  /-- The file itself is not read. -/
  | file (fault : FileFault)
  /-- Its text is no JSON. -/
  | json (fault : Json.Fault)
deriving Repr, DecidableEq

/-- The wording of a fault. -/
def DataFault.message : DataFault → String
  | .file fault => fault.message
  | .json fault => fault.message

/-- The value in a data file. -/
def Files.readValue (files : Files) (path : String) : Except DataFault Value :=
  match files.readText path with
  | .error fault => .error (.file fault)
  | .ok text => (Json.read text).mapError .json

end TurtleScript
