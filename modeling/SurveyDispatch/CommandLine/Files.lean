import SurveyDispatch.CommandLine.Program

/-!
# Files of a command

A command reads the files that its arguments name and, of a store or a source, everything below its
directory.  It only changes files of a store.
-/

namespace SurveyDispatch

/-- The paths that a command may read at or below. -/
def Command.paths : Command → List String
  | query store _ rules => [store, rules]
  | screen file _ | route file _ | compile file | attachments file => [file]
  | expand _ => []
  | process store _ _ => [store]
  | sync store _ source _ => store :: source.toList

/-- The directory in which a command may change files. -/
def Command.changing : Command → Option String
  | sync store _ _ _ => some store
  | _ => none

/-- The paths that a request may read at or below. -/
def Request.paths : Request → List String
  | version => []
  | run options command => options.configuration.toList ++ command.paths

/-- The directory in which a request may change files. -/
def Request.changing : Request → Option String
  | version => none
  | run _ command => command.changing

namespace FileSystem

/-- The file system with a directory at a path.  Where there cannot be one, it stays as it is. -/
def withDirectory (s : FileSystem) (path : String) : FileSystem :=
  (s.makeDirectories (Document.segments path).reverse).2

/-- The file system with a file at a path.  Where there cannot be one, it stays as it is. -/
def withFile (s : FileSystem) (path : String) (content : Bytes) : FileSystem :=
  let s := (s.makeDirectories (above path)).2
  match s.write path content with
  | .ok s => s
  | .error _ => s

/-- The files below a path. -/
def filesBelow (s : FileSystem) (path : String) : List (String × Bytes) :=
  match s.find path with
  | .ok (.directory entries) => FileTree.objectsOf "" "" entries
  | _ => []

/-- The files below a path that are not the same in an earlier file system. -/
def changesBelow (before after : FileSystem) (path : String) : List (String × Bytes) :=
  let earlier := before.filesBelow path
  (after.filesBelow path).filter fun f => earlier.lookup f.1 != some f.2

end FileSystem

end SurveyDispatch
