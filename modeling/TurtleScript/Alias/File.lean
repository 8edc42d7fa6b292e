import TurtleScript.Alias.Table
import TurtleScript.Storage.DataFile

/-!
Alias files: a JSON record whose names are comma-separated groups of aliases and whose values are
command names.
-/
namespace TurtleScript

/-- Why an alias file is not used. -/
inductive AliasFileFault where
  /-- The file is not read. -/
  | unreadable (fault : DataFault)
  /-- The file holds no record. -/
  | notRecord
  /-- The aliases in it are refused. -/
  | refused (fault : AliasFault)
deriving Repr, DecidableEq

/-- The wording of a fault. -/
def AliasFileFault.message : AliasFileFault → String
  | .unreadable fault => s!"Failed to load sugar file: {fault.message}"
  | .notRecord => "Sugar file must contain a JSON object"
  | .refused fault => fault.message

/-- The collisions that a fault lists. -/
def AliasFileFault.conflicts : AliasFileFault → List String
  | .refused fault => fault.conflicts
  | _ => []

/-- `UserInterfaceMapper.load_from_json`: the table after the aliases of a file were added. -/
def AliasTable.load (t : AliasTable) (files : Files) (path : String) :
    Except AliasFileFault AliasTable :=
  match files.readValue path with
  | .error fault => .error (.unreadable fault)
  | .ok (.record fields) => (t.configure (.ofFields fields)).mapError .refused
  | .ok _ => .error .notRecord

end TurtleScript
