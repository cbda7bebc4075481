import DocMachine.FileTree.Path
import DocMachine.Table
import DocMachine.Text.Utf8

/-!
# File trees

The files and directories that a program works on, as a value. Operations take paths as text,
follow them name by name, and fail as the operating system would.

Every place that was looked at is noted in `asked`, so that a host which knows only a part of the
tree can see what else it has to look up.
-/

namespace DocMachine

/-- What stands at a place. -/
inductive Node where
  | file (bytes : List UInt8)
  | dir
  deriving DecidableEq

/-- A place: the names that lead to it from the root. -/
abbrev Place := List String

/-- Why a file operation fails. -/
inductive FileFault where
  | notFound
  | exists
  | notDirectory
  | isDirectory
  | nameTooLong
  | nulByte
  | notText
  deriving DecidableEq

namespace FileFault

/-- The fault in words. -/
def message : FileFault → String
  | notFound => "No such file or directory (os error 2)"
  | .exists => "File exists (os error 17)"
  | notDirectory => "Not a directory (os error 20)"
  | isDirectory => "Is a directory (os error 21)"
  | nameTooLong => "File name too long (os error 36)"
  | nulByte => "file name contained an unexpected NUL byte"
  | notText => "stream did not contain valid UTF-8"

end FileFault

/-- Files and directories, the directory at which relative paths start, and the places looked at. -/
structure FileTree where
  nodes : Table Place Node := []
  current : Place := []
  asked : List Place := []

/-- What is done with files. -/
abbrev Files := ExceptT FileFault (StateM FileTree)

namespace Files

/-- What stands at a place. The root is always a directory. -/
def look (place : Place) : Files (Option Node) := do
  let tree ← get
  if place.isEmpty then return some .dir
  if !tree.asked.contains place then set { tree with asked := place :: tree.asked }
  return tree.nodes.get? place

/-- Changes the nodes. -/
def onNodes (change : Table Place Node → Table Place Node) : Files Unit :=
  modify fun tree => { tree with nodes := change tree.nodes }

/-- The longest name in bytes. -/
def maxName : Nat := 255

/-- The longest path in bytes. -/
def maxPath : Nat := 4095

/-- Follows names from a place. Whatever a name is looked up in has to be a directory; the last name
may be absent. -/
def follow (place : Place) : List String → Files Place
  | [] => return place
  | name :: rest => do
    match ← look place with
    | none => throw .notFound
    | some (.file _) => throw .notDirectory
    | some .dir =>
      if maxName < name.utf8ByteSize then throw .nameTooLong
      if name = "." then follow place rest
      else if name = ".." then follow place.dropLast rest
      else follow (place ++ [name]) rest

/-- Where a path starts. -/
def origin (path : String) : Files Place := do
  if path.toList.contains (Char.ofNat 0) then throw .nulByte
  if path.isEmpty then throw .notFound
  if maxPath < path.utf8ByteSize then throw .nameTooLong
  if Path.isAbsolute path then return [] else return (← get).current

/-- The place that a path names. -/
def locate (path : String) : Files Place := do
  follow (← origin path) (Path.names path)

/-- The place of a directory and the name in it that is to be written. A path that ends in a slash
or in dots names a directory, which has no such name. -/
def locateEntry (path : String) : Files (Place × Option String) := do
  let start ← origin path
  let closed := Path.endsInSlash path
  let names := if closed then (Path.names path).dropLast else Path.names path
  let place ← follow start names.dropLast
  match ← look place, names.getLast? with
  | none, _ => throw .notFound
  | some (.file _), _ => throw .notDirectory
  | some .dir, none => return (place, none)
  | some .dir, some name =>
    if maxName < name.utf8ByteSize then throw .nameTooLong
    return (place, if closed || name = "." || name = ".." then none else some name)

/-- The place that a path names, which has to exist. -/
def canonicalize (path : String) : Files Place := do
  let place ← locate path
  match ← look place with
  | some _ => return place
  | none => throw .notFound

/-- The path of a place. -/
def pathOf (place : Place) : String :=
  "/" ++ String.intercalate "/" place

/-- The bytes of a file. -/
def readBytes (path : String) : Files (List UInt8) := do
  match ← look (← locate path) with
  | some (.file bytes) => return bytes
  | some .dir => throw .isDirectory
  | none => throw .notFound

/-- The text of a file. -/
def readText (path : String) : Files String := do
  match Text.ofUtf8 (← readBytes path) with
  | .ok text => return text
  | .error _ => throw .notText

/-- Writes a file, which may be new. -/
def writeText (path text : String) : Files Unit := do
  match ← locateEntry path with
  | (_, none) => throw .isDirectory
  | (place, some name) =>
    let place := place ++ [name]
    match ← look place with
    | some .dir => throw .isDirectory
    | _ => onNodes fun nodes => nodes.insert place (.file (Text.toUtf8 text))

/-- Removes a file. -/
def removeFile (path : String) : Files Unit := do
  let place ← locate path
  match ← look place with
  | none => throw .notFound
  | some .dir => throw .isDirectory
  | some (.file _) => onNodes fun nodes => nodes.erase place

/-- Whether a path names a file. -/
def isFile (path : String) : StateM FileTree Bool := do
  match ← ExceptT.run (do look (← locate path)) with
  | .ok (some (.file _)) => return true
  | _ => return false

/-- Whether a path names a directory. -/
def isDir (path : String) : StateM FileTree Bool := do
  match ← ExceptT.run (do look (← locate path)) with
  | .ok (some .dir) => return true
  | _ => return false

/-- Makes one directory. -/
def makeDir (path : String) : Files Unit := do
  let start ← origin path
  let names := Path.names path
  let names := if names.getLast? = some "." then names.dropLast else names
  let place ← follow start names
  match ← look place.dropLast, ← look place with
  | some .dir, none => onNodes fun nodes => nodes.insert place .dir
  | some .dir, some _ => throw .exists
  | some (.file _), _ => throw .notDirectory
  | none, _ => throw .notFound

/-- Makes a directory if it is not there. -/
def makeDirOnce (path : String) : StateM FileTree (Option FileFault) := do
  match ← (makeDir path).run with
  | .ok _ => return none
  | .error fault => if ← isDir path then return none else return some fault

/-- Makes a directory and those above it. The fuel bounds their count. -/
def makeDirs : Nat → String → StateM FileTree (Option FileFault)
  | 0, _ => return some .notFound
  | fuel + 1, path => do
    if path.isEmpty then return none
    match ← makeDirOnce path with
    | some .notFound =>
      match Path.parent? path with
      | none => return some .notFound
      | some parent =>
        match ← makeDirs fuel parent with
        | some fault => return some fault
        | none => makeDirOnce path
    | outcome => return outcome

end Files

end DocMachine
