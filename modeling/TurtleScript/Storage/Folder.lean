import TurtleScript.Text.Blank
import TurtleScript.Text.LineBreak
import TurtleScript.Text.Utf8

/-!
Files as programs and levels are read from them. What a path leads to is a function, so that a
program behaves the same over a disk and over a folder that is held in memory; a text file is UTF-8,
and its line breaks are unified when it is read.
-/
namespace TurtleScript

open Text

/-- Why a file is not read. -/
inductive FileFault where
  /-- Nothing is there. -/
  | missing (path : String)
  /-- The path goes through something that is no directory. -/
  | notDirectory (path : String)
  /-- A directory is there. -/
  | directory (path : String)
  /-- The path or a name in it is longer than any file's. -/
  | nameTooLong (path : String)
  /-- No path has a null character. -/
  | nullInPath
  /-- The file is no text. -/
  | encoding (fault : Utf8.Fault)
deriving Repr, DecidableEq

/-- The wording of a fault. -/
def FileFault.message : FileFault → String
  | .missing path => s!"[Errno 2] No such file or directory: {quoted path}"
  | .notDirectory path => s!"[Errno 20] Not a directory: {quoted path}"
  | .directory path => s!"[Errno 21] Is a directory: {quoted path}"
  | .nameTooLong path => s!"[Errno 36] File name too long: {quoted path}"
  | .nullInPath => "embedded null byte"
  | .encoding fault => fault.message

/-- The octets that a path leads to. -/
abbrev Files := String → Except FileFault (List Nat)

/-- The text of a file. -/
def Files.readText (files : Files) (path : String) : Except FileFault String :=
  match files path with
  | .error fault => .error fault
  | .ok octets =>
    match Utf8.decode octets with
    | .error fault => .error (.encoding fault)
    | .ok cs => .ok (String.ofList (unifyBreaks cs))

/-! ## Folders in memory -/

/-- What has a name in a folder. -/
inductive Content where
  /-- A file of octets. -/
  | file (octets : List Nat)
  /-- A directory. -/
  | directory
deriving Repr, DecidableEq

/-- The files and directories of a folder, each under its relative path. -/
abbrev Folder := List (String × Content)

/-- Where a walk along a path stands: inside the folder at a list of names, or outside of it. -/
inductive Standing where
  /-- At names from the folder down. -/
  | inside (names : List String)
  /-- In a directory above the folder. -/
  | outside
deriving Repr, DecidableEq

namespace Folder

/-- The names of a path. -/
def names (path : String) : List String :=
  (splitChars '/' path.toList).map String.ofList

/-- The names of a path without those that lead nowhere. -/
def plainNames (path : String) : List String :=
  (names path).filter fun name => name ≠ "" && name ≠ "."

/-- What stands at a list of names; a directory also stands where something is below. -/
def content? (folder : Folder) (place : List String) : Option Content :=
  match folder.find? fun entry => plainNames entry.1 = place with
  | some entry => some entry.2
  | none =>
    if place.isEmpty || folder.any fun entry => place.isPrefixOf (plainNames entry.1) then
      some .directory
    else none

/-- The greatest number of octets of a name. -/
def longestName : Nat := 255

/-- The greatest number of octets of a path. -/
def longestPath : Nat := 4095

/-- Follows one name. It is looked for only if what was reached before is a directory, and a name
that is too long is refused when it is looked for. -/
def follow (folder : Folder) (path : String) (standing : Standing) (name : String) :
    Except FileFault Standing :=
  match standing with
  | .outside =>
    if name = "" || name = "." || name = ".." then .ok .outside
    else if name.utf8ByteSize > longestName then .error (.nameTooLong path)
    else .error (.missing path)
  | .inside place =>
    match folder.content? place with
    | none => .error (.missing path)
    | some (.file _) => .error (.notDirectory path)
    | some .directory =>
      if name = "" || name = "." then .ok (.inside place)
      else if name = ".." then .ok (if place.isEmpty then .outside else .inside place.dropLast)
      else if name.utf8ByteSize > longestName then .error (.nameTooLong path)
      else .ok (.inside (place ++ [name]))

/-- What a path leads to. -/
def walk (folder : Folder) (path : String) : Except FileFault Content :=
  let start : Standing := if path.startsWith "/" then .outside else .inside []
  match (names path).foldlM (folder.follow path) start with
  | .error fault => .error fault
  | .ok .outside => .ok .directory
  | .ok (.inside place) =>
    match folder.content? place with
    | none => .error (.missing path)
    | some content => .ok content

/-- The files of a folder. -/
def files (folder : Folder) : Files := fun path =>
  if path.toList.contains '\x00' then .error .nullInPath
  else if path.isEmpty then .error (.missing path)
  else if path.utf8ByteSize > longestPath then .error (.nameTooLong path)
  else
    match folder.walk path with
    | .error fault => .error fault
    | .ok .directory => .error (.directory path)
    | .ok (.file octets) => .ok octets

end Folder

end TurtleScript
