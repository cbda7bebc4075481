import DocMachine.FileTree
import DocMachine.Resource

/-!
# Files as resources

The scheme `file` names files by their path. A file is read and written as a document of the media
type asked for. `pathOf` and `uriFor` go between URIs and paths.
-/

namespace DocMachine.Provider.File

/-- The scheme of files. -/
def scheme : String := "file"

/-- The path that a URI names, percent-decoded. -/
def pathOf (uri : String) : Except Fault String := do
  let url ← Resource.parseUri uri
  if url.scheme ≠ scheme then throw (.invalidUri uri .notFile)
  let path ← (Text.percentDecode url.path).mapError fun fault => .invalidUri uri (.encoding fault)
  if path.isEmpty then throw (.invalidUri uri .emptyPath)
  return path

/-- A segment of a path with all but unreserved characters percent-encoded. -/
def encodeSegment (segment : List Char) : List Char :=
  Text.percentEncode Text.isUnreserved segment

/-- The URI of a path. -/
def uriFor (path : String) : String :=
  scheme ++ "://" ++
    String.intercalate "/" ((path.toList.splitOn '/').map fun segment =>
      String.ofList (encodeSegment segment))

/-- What went wrong with the file that a URI names. -/
def fault (uri action : String) (cause : FileFault) : Fault :=
  .provider uri (action ++ " failed: " ++ cause.message)

/-- Reads a document. -/
def read (media : Media) (uri : String) : ExceptT Fault (StateM FileTree) Value := do
  let path ← ExceptT.mk (pure (pathOf uri))
  match ← ExceptT.lift (Files.readText path).run with
  | .error cause => throw (fault uri "read" cause)
  | .ok text =>
    match media.decode? text with
    | some value => return value
    | none => throw (.codec media)

/-- Writes a document. -/
def write (media : Media) (value : Value) (uri : String) :
    ExceptT Fault (StateM FileTree) Unit := do
  let path ← ExceptT.mk (pure (pathOf uri))
  match ← ExceptT.lift (Files.writeText path (media.encode value)).run with
  | .error cause => throw (fault uri "write" cause)
  | .ok _ => return ()

/-- Removes a file. One that is missing may be fine. -/
def remove (missingOk : Bool) (uri : String) : ExceptT Fault (StateM FileTree) Unit := do
  let path ← ExceptT.mk (pure (pathOf uri))
  match ← ExceptT.lift (Files.removeFile path).run with
  | .error cause =>
    if cause = .notFound && missingOk then return () else throw (fault uri "delete" cause)
  | .ok _ => return ()

/-- Reads the parameter of a removal. -/
def missingOkField (_ : Bool) (key : String) (v : Value) : Param.Read Bool :=
  match key with
  | "missing_ok" => Param.boolean v
  | _ => .error (.unknown key ["missing_ok"])

end DocMachine.Provider.File
