import SurveyDispatch.Store.FileTree
import SurveyDispatch.Document.Path

/-!
# File systems

A file system is a file tree with a working directory.  A path is a text of parts with slashes
between them.  It starts at the root if there is a slash at its front, and in the working directory
otherwise.

Names and paths that are too long are refused, and so are texts with the null character.
-/

namespace SurveyDispatch

/-- A file tree with a working directory. -/
structure FileSystem where
  /-- All files. -/
  root : FileTree
  /-- The place of the working directory. -/
  here : List String
  /-- How long names and paths may be. -/
  limits : Limits := .usual

namespace FileSystem

open FileTree (childOf)

/-- The file system that has only a working directory and those above it. -/
def ofPlace (here : List String) : FileSystem :=
  { root := FileTree.empty.insertAt here .empty, here }

/-! ## Following paths -/

/-- The path of parts. -/
def pathOf (parts : List String) : String :=
  if parts = [""] then "/" else "/".intercalate parts

/-- The fault of a path that cannot be followed at all. -/
def pathFault? (s : FileSystem) (path : String) : Option FileFault :=
  if '\x00' ∈ path.toList then some .nullCharacter
  else if path.isEmpty then some .notFound
  else if s.limits.path ≤ path.utf8ByteSize then some .nameTooLong
  else none

/-- The parts of a path that can be followed. -/
def partsOf (s : FileSystem) (path : String) : Except FileFault (List String) :=
  match s.pathFault? path with
  | some fault => .error fault
  | none => .ok (Document.segments path)

/-- The place that parts lead to. -/
def follow (s : FileSystem) (parts : List String) : Except FileFault (List String) :=
  s.root.follow s.limits (if parts.head? = some "" then [] else s.here) parts

/-- What a path leads to. -/
def find (s : FileSystem) (path : String) : Except FileFault FileTree := do
  match s.root.at? (← s.follow (← s.partsOf path)) with
  | some node => .ok node
  | none => .error .notFound

/-- The bytes of a file. -/
def read (s : FileSystem) (path : String) : Except FileFault Bytes := do
  match ← s.find path with
  | .file content => .ok content
  | .directory _ => .error .isDirectory

/-- Whether a path leads to a directory. -/
def isDirectory (s : FileSystem) (path : String) : Bool :=
  match s.find path with
  | .ok (.directory _) => true
  | _ => false

/-! ## Making directories -/

/-- The place of a directory and its entries. -/
def followToDirectory (s : FileSystem) (parts : List String) :
    Except FileFault (List String × List (String × FileTree)) := do
  let here ← s.follow parts
  match (s.root.at? here).bind FileTree.entries? with
  | some entries => .ok (here, entries)
  | none => .error .notDirectory

/-- Puts a file or a directory at a place. -/
def insertAt (s : FileSystem) (place : List String) (node : FileTree) : FileSystem :=
  { s with root := s.root.insertAt place node }

/-- Makes a directory.  There is one already where the last part stays or goes up. -/
def makeDirectory (s : FileSystem) (parts : List String) : Except FileFault FileSystem :=
  match s.pathFault? (pathOf parts), parts.getLast? with
  | some fault, _ => .error fault
  | none, none => .error .notFound
  | none, some name => do
    let (here, entries) ← s.followToDirectory parts.dropLast
    if name = "" ∨ name = "." ∨ name = ".." then .error .alreadyExists
    else match childOf s.limits entries name with
      | .ok _ => .error .alreadyExists
      | .error .notFound => .ok (s.insertAt (here ++ [name]) .empty)
      | .error fault => .error fault

/-- Makes a directory, where one that is there already will do. -/
def ensureDirectory (s : FileSystem) (parts : List String) : Except FileFault Unit × FileSystem :=
  match s.makeDirectory parts with
  | .ok s => (.ok (), s)
  | .error fault => (if s.isDirectory (pathOf parts) then .ok () else .error fault, s)

/-- Whether a part stays where it is. -/
def stays (part : String) : Bool := part == "" || part == "."

/-- Makes a directory and, where they are missing, those above it.  The parts come in reverse order.
Those that stay are left out at the end of a path.  Directories that were made stay also if a later
one cannot be made. -/
def makeDirectories (s : FileSystem) : List String → Except FileFault Unit × FileSystem
  | [] => (.ok (), s)
  | name :: above =>
    if stays name && !above.isEmpty then s.makeDirectories above
    else
      let parts := (name :: above).reverse
      match s.makeDirectory parts with
      | .error .notFound =>
        match s.makeDirectories above with
        | (.ok (), s) => s.ensureDirectory parts
        | failed => failed
      | _ => s.ensureDirectory parts

/-- The parts of the directory that the file of a path is in, in reverse order. -/
def above (path : String) : List String :=
  ((Document.segments path).reverse.dropWhile stays).tail

/-! ## Writing files -/

/-- Writes a file, given by the parts of its path.  A path that goes on behind the name cannot be
written. -/
def writeParts (s : FileSystem) (parts : List String) (content : Bytes) :
    Except FileFault FileSystem :=
  match parts.getLast? with
  | none => .error .isDirectory
  | some name => do
    if stays name then
      let before := (parts.reverse.dropWhile (· == "")).reverse
      let _ ← s.follow (if name = "" then before.dropLast else parts)
      .error .isDirectory
    else
      let (here, entries) ← s.followToDirectory parts.dropLast
      match childOf s.limits entries name with
      | .ok (.directory _) => .error .isDirectory
      | .ok (.file _) | .error .notFound => .ok (s.insertAt (here ++ [name]) (.file content))
      | .error fault => .error fault

/-- Writes a file. -/
def write (s : FileSystem) (path : String) (content : Bytes) : Except FileFault FileSystem := do
  s.writeParts (← s.partsOf path) content

end FileSystem

end SurveyDispatch
