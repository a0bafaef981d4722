import SurveyDispatch.CommandLine.Files
import Std.Time.Format

/-!
# The command line

The files that the arguments name are loaded, the program runs on them, and what it changed is
written back.
-/

namespace SurveyDispatch

/-- Adds a file, or a directory with everything below it.  What cannot be read is left out. -/
partial def loadPath (files : FileSystem) (path : String) : IO FileSystem := do
  match ← (IO.FS.readBinFile path).toBaseIO with
  | .ok content => return files.withFile path content.toList
  | .error _ =>
    match ← (do (← IO.FS.realPath path).readDir : IO _).toBaseIO with
    | .ok entries =>
      entries.foldlM (fun files entry => loadPath files (FileSystem.join path entry.fileName))
        (files.withDirectory path)
    | .error _ => return files

/-- The file system that has only the working directory and those above it. -/
def workingDirectory : IO FileSystem := do
  let path ← IO.currentDir
  return .ofPlace ((Document.segments path.toString).filter (!·.isEmpty))

/-- Writes a file and makes the directories above it. -/
def saveFile (root key : String) (content : Bytes) : IO Unit := do
  let path := FileSystem.join root key
  unless (FileSystem.above path).isEmpty do
    IO.FS.createDirAll (FileSystem.pathOf (FileSystem.above path).reverse)
  IO.FS.writeBinFile path content.toByteArray

/-- The present time in writing. -/
def presentTime : IO String := do
  let now ← Std.Time.Timestamp.now
  return (Std.Time.DateTime.ofTimestamp now .UTC).format "uuuu-MM-dd'T'HH:mm:ss.SSSSSSSSS'Z'"

end SurveyDispatch

open SurveyDispatch in
/-- Runs the program. -/
def main (arguments : List String) : IO UInt32 := do
  let request := Request.ofArguments? arguments
  let paths := (request.map Request.paths).getD []
  let before ← paths.foldlM loadPath (← workingDirectory)
  let time ← presentTime
  let result := execute before (fun _ => time) arguments
  match request.bind Request.changing with
  | some root =>
    for (key, content) in before.changesBelow result.files root do saveFile root key content
  | none => pure ()
  IO.print result.output
  IO.eprint result.errors
  return result.exitCode.toUInt32
