/-! A tree of files and directories, and the paths into it. Every name of a path but the last must
lead to a directory; a path that ends in a slash, or in one of the two dotted names, means a directory. -/

namespace SquareSums.Console

inductive DiskFault where
  | notFound
  | notDirectory
  | isDirectory
  | nameTooLong
  | other (reason : String)
deriving DecidableEq, Repr

def DiskFault.reason : DiskFault → String
  | notFound => "No such file or directory (os error 2)"
  | notDirectory => "Not a directory (os error 20)"
  | isDirectory => "Is a directory (os error 21)"
  | nameTooLong => "File name too long (os error 36)"
  | other reason => reason

/-- The names that lead to a file or directory, the innermost first; the root has none. -/
abbrev Place := List String

/-- Repeated slashes count once. -/
def pathNames (text : String) : List String :=
  ((text.toList.splitOn '/').filter (!·.isEmpty)).map String.ofList

/-- The place itself and all that contain it, but not the root. -/
def enclosing : Place → List Place
  | [] => []
  | name :: parents => (name :: parents) :: enclosing parents

structure Path where
  isAbsolute : Bool
  parents : List String
  name : String
  isClosed : Bool
deriving DecidableEq, Repr

def Path.ofText (text : String) : Path :=
  let names := pathNames text
  ⟨text.toList.head? == some '/', names.dropLast, names.getLastD ".", text.toList.getLast? == some '/'⟩

def Path.isDirectory (path : Path) : Bool := path.isClosed || path.name == "." || path.name == ".."

/-- Paths are taken from the root if they begin with a slash, and from the home directory otherwise. -/
structure Disk where
  home : Place
  files : List (Place × ByteArray)
  directories : List Place

namespace Disk

/-- The given files and directories below a home directory. Whatever contains one of them is a directory. -/
def ofTexts (home : Place) (files : List (String × ByteArray)) (directories : List String) : Disk :=
  let place (text : String) : Place := (pathNames text).reverse ++ home
  let files := files.map fun (text, bytes) => (place text, bytes)
  { home
    files
    directories := enclosing home ++ directories.flatMap (fun text => enclosing (place text)) ++
      files.flatMap (fun (place, _) => enclosing place.tail) }

def hasDirectory (disk : Disk) (place : Place) : Bool := place.isEmpty || disk.directories.contains place

def file? (disk : Disk) (place : Place) : Option ByteArray := disk.files.lookup place

def maxNameBytes : Nat := 255

def maxPathBytes : Nat := 4095

/-- One step from a directory to another. The root is its own parent. -/
def enter (disk : Disk) (place : Place) (name : String) : Except DiskFault Place :=
  if name == "." then .ok place
  else if name == ".." then .ok place.tail
  else if maxNameBytes < name.utf8ByteSize then .error .nameTooLong
  else if disk.hasDirectory (name :: place) then .ok (name :: place)
  else if (disk.file? (name :: place)).isSome then .error .notDirectory
  else .error .notFound

/-- The path that a text means, and the directory that holds its last name. -/
def locate (disk : Disk) (text : String) : Except DiskFault (Path × Place) := do
  if maxPathBytes < text.utf8ByteSize then .error .nameTooLong
  else
    let path := Path.ofText text
    let parent ← path.parents.foldlM disk.enter (if path.isAbsolute then [] else disk.home)
    pure (path, parent)

def read (disk : Disk) (text : String) : Except DiskFault ByteArray := do
  let (path, parent) ← disk.locate text
  if path.isDirectory then
    let _ ← disk.enter parent path.name
    .error .isDirectory
  else if maxNameBytes < path.name.utf8ByteSize then .error .nameTooLong
  else if disk.hasDirectory (path.name :: parent) then .error .isDirectory
  else match disk.file? (path.name :: parent) with
    | some bytes => .ok bytes
    | none => .error .notFound

/-- Where the file of a path stands or would be created. -/
def target (disk : Disk) (text : String) : Except DiskFault Place := do
  let (path, parent) ← disk.locate text
  if path.isDirectory then .error .isDirectory
  else if maxNameBytes < path.name.utf8ByteSize then .error .nameTooLong
  else if disk.hasDirectory (path.name :: parent) then .error .isDirectory
  else .ok (path.name :: parent)

/-- The disk on which a file holds the given bytes, whether or not it was there before. -/
def put (disk : Disk) (place : Place) (bytes : ByteArray) : Disk :=
  { disk with files := (place, bytes) :: disk.files.filter (·.1 != place) }

/-- Creates an empty file, or empties the one that is there. -/
def create (disk : Disk) (text : String) : Except DiskFault (Place × Disk) := do
  let place ← disk.target text
  .ok (place, disk.put place ByteArray.empty)

/-- Every file below the home directory, under its path from there. -/
def listing (disk : Disk) : List (String × ByteArray) :=
  (disk.files.filter fun (place, _) => disk.home.isSuffixOf place).map fun (place, bytes) =>
    ("/".intercalate (place.take (place.length - disk.home.length)).reverse, bytes)

end Disk
end SquareSums.Console
