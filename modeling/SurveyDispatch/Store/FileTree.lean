import SurveyDispatch.Store.Basic
import SurveyDispatch.Dictionary

/-!
# File trees

A file tree is a directory with everything below it.  A place in it is given by the names that lead
there.  Parts of a path are followed from a place: a name leads down, `..` leads up, and empty parts
and `.` stay.  Each of them needs a directory to stand in, so a slash behind the name of a file is a
fault.

A name may be too long to be looked for.
-/

namespace SurveyDispatch

/-- The lengths that a file system takes, in bytes. -/
structure Limits where
  /-- The longest name. -/
  name : Nat
  /-- What paths stay below. -/
  path : Nat

/-- The usual lengths. -/
def Limits.usual : Limits := ⟨255, 4096⟩

/-- A file or a directory. -/
inductive FileTree where
  /-- A file with its bytes. -/
  | file (content : Bytes)
  /-- A directory with the entries in it. -/
  | directory (entries : List (String × FileTree))

namespace FileTree

/-- A directory without entries. -/
def empty : FileTree := directory []

/-- The entries of a directory. -/
def entries? : FileTree → Option (List (String × FileTree))
  | directory entries => some entries
  | file _ => none

/-- What is at a place, which is given by the names that lead to it. -/
def at? : List String → FileTree → Option FileTree
  | [], t => some t
  | name :: rest, directory entries => (entries.lookup name).bind (at? rest)
  | _ :: _, file _ => none

/-- Puts something at a place.  The names must lead through directories. -/
def insertAt : FileTree → List String → FileTree → FileTree
  | _, [], node => node
  | directory entries, name :: rest, node =>
    directory (insertEntry name (((entries.lookup name).getD empty).insertAt rest node) entries)
  | file content, _ :: _, _ => file content

/-! ## Following parts -/

/-- The entry of a directory that a name leads to. -/
def childOf (limits : Limits) (entries : List (String × FileTree)) (name : String) :
    Except FileFault FileTree :=
  match entries.lookup name with
  | some t => .ok t
  | none => .error (if limits.name < name.utf8ByteSize then .nameTooLong else .notFound)

/-- The place that the parts of a path lead to from another one. -/
def follow (limits : Limits) (t : FileTree) (here : List String) :
    List String → Except FileFault (List String)
  | [] => .ok here
  | part :: rest =>
    match (t.at? here).bind entries? with
    | none => .error .notDirectory
    | some entries =>
      if part = "" ∨ part = "." then follow limits t here rest
      else if part = ".." then follow limits t here.dropLast rest
      else
        match childOf limits entries part with
        | .ok _ => follow limits t (here ++ [part]) rest
        | .error fault => .error fault

end FileTree

end SurveyDispatch
