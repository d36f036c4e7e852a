import Recast.Table
/-!
Files, and a store of them in memory.

Documents are read from and written to files through a `FileSystem`: reading a file's bytes,
writing them, and creating a directory with all its parents. Each operation fails with an
`OsError`, worded as Linux words it.

A `Store` is a file system in memory: a directory tree of files, each entry under its path,
split into components. It behaves as the operating system does on the paths a document tool
uses: a path whose parent is missing is not found, a path through a file is not a directory,
reading or writing a directory is refused, and making a directory that exists as a file fails
as existing. The `StateM Store` monad is a `FileSystem`.
-/

namespace Recast

/-- An error of a file operation. -/
inductive OsError where
  | notFound
  | isDirectory
  | notDirectory
  | alreadyExists
  /-- A file read as text is not UTF-8. -/
  | invalidUtf8
  /-- Any other error, with its text and code. -/
  | other (text : String) (code : Nat)
  deriving DecidableEq, Inhabited, Repr

/-- The text of an error. -/
def OsError.text : OsError → String
  | .notFound => "No such file or directory (os error 2)"
  | .isDirectory => "Is a directory (os error 21)"
  | .notDirectory => "Not a directory (os error 20)"
  | .alreadyExists => "File exists (os error 17)"
  | .invalidUtf8 => "stream did not contain valid UTF-8"
  | .other text code => text ++ " (os error " ++ toString code ++ ")"

/-- The file operations documents need. Paths are texts, relative to a working directory. -/
class FileSystem (m : Type → Type) where
  readBytes : String → m (Except OsError ByteArray)
  writeBytes : String → ByteArray → m (Except OsError Unit)
  createDirAll : String → m (Except OsError Unit)

/-- An entry of a store. -/
inductive Entry where
  | directory
  | file (bytes : List UInt8)
  deriving DecidableEq, Inhabited, Repr

/-- The components of a path text; empty components and `.` name no step. -/
def components (path : String) : List String :=
  (path.splitOn "/").filter fun part => !part.isEmpty && part != "."

/-- Files and directories by path; the working directory itself is the empty path. -/
structure Store where
  entries : List (List String × Entry) := []
  deriving Inhabited

namespace Store

/-- The entry at a path. -/
def lookup (store : Store) (path : List String) : Option Entry :=
  if path.isEmpty then some .directory
  else (store.entries.find? fun entry => entry.1 == path).map Prod.snd

/-- Fails unless every proper prefix of a path is a directory: the first missing one is not
found, the first file is not a directory. -/
def checkParents (store : Store) (path : List String) : Except OsError Unit :=
  (List.range path.length).forM fun length =>
    match store.lookup (path.take length) with
    | some .directory => .ok ()
    | some (.file _) => .error .notDirectory
    | none => .error .notFound

/-- Sets the entry at a path, in place when it exists. -/
def put (store : Store) (path : List String) (entry : Entry) : Store :=
  if store.entries.any fun existing => existing.1 == path then
    { entries := store.entries.map fun existing => if existing.1 == path then (path, entry) else existing }
  else { entries := store.entries ++ [(path, entry)] }

/-- Reads the bytes of a file. -/
def readFile (store : Store) (path : List String) : Except OsError (List UInt8) := do
  store.checkParents path
  match store.lookup path with
  | none => throw .notFound
  | some .directory => throw .isDirectory
  | some (.file bytes) => pure bytes

/-- Writes a file, creating or replacing it. -/
def writeFile (store : Store) (path : List String) (bytes : List UInt8) : Except OsError Store := do
  store.checkParents path
  match store.lookup path with
  | some .directory => throw .isDirectory
  | _ => pure (store.put path (.file bytes))

/-- Makes one directory. -/
def createDir (store : Store) (path : List String) : Except OsError Store := do
  store.checkParents path
  match store.lookup path with
  | some _ => throw .alreadyExists
  | none => pure (store.put path .directory)

/-- Makes a directory and every missing parent: an existing directory is fine, anything else
on the way fails. -/
def createDirAll (store : Store) (path : List String) : Except OsError Store :=
  (List.range path.length).foldlM (fun store length =>
    let leading := path.take (length + 1)
    match store.lookup leading with
    | some .directory => .ok store
    | some (.file _) =>
      if length + 1 == path.length then .error .alreadyExists else .error .notDirectory
    | none => store.createDir leading) store

/-- Lexicographic order of paths, component by component. -/
def pathBefore : List String → List String → Bool
  | [], _ :: _ => true
  | _, [] => false
  | first :: rest, other :: others =>
    if first == other then pathBefore rest others else decide (first < other)

/-- The files of the store with their paths, in path order. -/
def files (store : Store) : List (List String × List UInt8) :=
  let found := store.entries.filterMap fun
    | (path, .file bytes) => some (path, bytes)
    | (_, .directory) => none
  found.mergeSort fun left right => pathBefore left.1 right.1 || left.1 == right.1

end Store

/-- A store as a file system: the state of the computation. -/
instance : FileSystem (StateM Store) where
  readBytes path := do
    if path.isEmpty then return .error .notFound
    let store ← get
    return (store.readFile (components path)).map fun bytes => ⟨bytes.toArray⟩
  writeBytes path bytes := do
    if path.isEmpty then return .error .notFound
    let store ← get
    match store.writeFile (components path) bytes.toList with
    | .ok next => set next; return .ok ()
    | .error error => return .error error
  createDirAll path := do
    let store ← get
    match store.createDirAll (components path) with
    | .ok next => set next; return .ok ()
    | .error error => return .error error

end Recast
