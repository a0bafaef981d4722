import SurveyDispatch.Store.FileSystem
import SurveyDispatch.Text.Front
import SurveyDispatch.Text.Trim

/-!
# Stores and sources in directories

A store in a directory keeps each object in a file below its root.  The key is the path of the file
from there.  A key that could lead out of the root, or to the root itself, is refused.  Listing
walks the tree and only enters directories in which a matching key can be.

A source in a directory serves the URLs below a base URL from a store.  In `LocalStores` a store
and a source share one file system.
-/

namespace SurveyDispatch

/-- Keys that name a file below the root: the first part is a name, and no part goes up. -/
def isBelowRoot (key : String) : Bool :=
  let parts := Document.segments key
  parts.head? != some "" && parts.head? != some "." && !parts.contains ".."

/-- The fault of an object whose file operation failed. -/
def FileFault.on (key : String) : FileFault → StoreFault
  | .notFound => .notFound key
  | fault => .file key fault

namespace FileTree

/-! ## Objects below a root -/

mutual

/-- The objects of entries whose keys start with a text.  The entries have their keys behind a
common start. -/
def objectsOf (front start : String) : List (String × FileTree) → List (String × Bytes)
  | [] => []
  | (name, node) :: rest => objectsAt front (start ++ name) node ++ objectsOf front start rest

/-- The objects at a key and below it whose keys start with a text. -/
def objectsAt (front key : String) : FileTree → List (String × Bytes)
  | file content => if Text.startsWith key front then [(key, content)] else []
  | directory entries =>
    if Text.startsWith (key ++ "/") front || Text.startsWith front (key ++ "/") then
      objectsOf front (key ++ "/") entries
    else []

end

end FileTree

namespace FileSystem

/-- The objects below a root whose keys start with a text, in the order of their keys.  A root that
is missing has none. -/
def listObjects (s : FileSystem) (root front : String) : Except StoreFault (List ObjectMeta) :=
  match s.find root with
  | .ok (.directory entries) =>
    let found := (FileTree.objectsOf front "" entries).map fun e => ⟨e.1, e.2.length⟩
    .ok (found.mergeSort fun a b => decide (a.key ≤ b.key))
  | .ok (.file _) => .error (.file "" .notDirectory)
  | .error .notFound => .ok []
  | .error fault => .error (fault.on "")

/-- The path of a name in a directory, which without a path is the working directory. -/
def join (directory name : String) : String :=
  if directory.isEmpty || directory.toList.getLast? == some '/' then directory ++ name
  else directory ++ "/" ++ name

/-- The path of a key. -/
def objectPath (root key : String) : Except StoreFault String :=
  if isBelowRoot key then .ok (join root key) else .error (.invalidKey key)

/-- The bytes of an object. -/
def getObject (s : FileSystem) (root key : String) : Except StoreFault Bytes := do
  (s.read (← objectPath root key)).mapError (·.on key)

/-- Whether there is an object.  A directory is none. -/
def containsObject (s : FileSystem) (root key : String) : Except StoreFault Bool := do
  match s.find (← objectPath root key) with
  | .ok node => .ok node.entries?.isNone
  | .error .notFound => .ok false
  | .error fault => .error (fault.on key)

/-- Creates an object or replaces its bytes, in a file below directories that are made for it. -/
def putObject (s : FileSystem) (root key : String) (bytes : Bytes) :
    Except StoreFault Unit × FileSystem :=
  match objectPath root key with
  | .error fault => (.error fault, s)
  | .ok path =>
    match s.makeDirectories (above path) with
    | (.error fault, s) => (.error (fault.on key), s)
    | (.ok (), s) =>
      match s.write path bytes with
      | .ok s => (.ok (), s)
      | .error fault => (.error (fault.on key), s)

/-! ## URLs below a base -/

/-- The name that a URL has below a base URL. -/
def nameOf? (base url : String) : Option String :=
  Text.afterFront? url (Text.trimEnd '/' base ++ "/")

/-- The bytes served at a URL by the store in a directory. -/
def fetch (s : FileSystem) (base root url : String) : Except StoreFault Bytes :=
  match nameOf? base url with
  | some name => s.getObject root name
  | none => .error (.notFound url)

end FileSystem

/-- A store in a directory. -/
structure DirectoryStore where
  /-- All files. -/
  files : FileSystem
  /-- The path of the directory. -/
  root : String

instance : ObjectStore DirectoryStore where
  list s := s.files.listObjects s.root
  get s := s.files.getObject s.root
  contains s := s.files.containsObject s.root
  put s key bytes :=
    let (result, files) := s.files.putObject s.root key bytes
    (result, { s with files })

/-- A source in a directory. -/
structure DirectorySource where
  /-- All files. -/
  files : FileSystem
  /-- The path of the directory. -/
  root : String
  /-- What the URLs start with. -/
  baseUrl : String

instance : AttachmentSource DirectorySource where
  fetch s url := (s.files.fetch s.baseUrl s.root url, s)

/-- A store and a source in directories of one file system. -/
structure LocalStores where
  /-- All files. -/
  files : FileSystem
  /-- The path of the store. -/
  storeRoot : String
  /-- The path of the source. -/
  sourceRoot : String
  /-- What the URLs of the source start with. -/
  baseUrl : String

instance : ObjectStore LocalStores where
  list s := s.files.listObjects s.storeRoot
  get s := s.files.getObject s.storeRoot
  contains s := s.files.containsObject s.storeRoot
  put s key bytes :=
    let (result, files) := s.files.putObject s.storeRoot key bytes
    (result, { s with files })

instance : AttachmentSource LocalStores where
  fetch s url := (s.files.fetch s.baseUrl s.sourceRoot url, s)

end SurveyDispatch
