import SurveyDispatch.CommandLine.Commands

/-!
# The program

The program reads its configuration, performs one command and ends with an exit code: zero, one for
a fault, or two for arguments that do not fit.  A fault is reported as a line of text or as a
document, unless the program is quiet.
-/

namespace SurveyDispatch

/-- What a run of the program leaves behind. -/
structure Execution where
  /-- The exit code. -/
  exitCode : UInt8
  /-- What was printed. -/
  output : String
  /-- What was reported as an error. -/
  errors : String
  /-- All files. -/
  files : FileSystem

/-- The name and the version of the program. -/
def versionLine : String := "formroute 0.1.0\n"

/-- What is reported on arguments that do not fit. -/
def usageLine : String :=
  "usage: formroute [--config FILE] [--output text|json] [--quiet] COMMAND [ARGUMENTS]\n"

/-- The report of a fault. -/
def CommandFault.report (fault : CommandFault) : OutputFormat → String
  | .text => fault.message ++ "\n"
  | .json => (Document.record [("error", .text fault.message)]).write ++ "\n"

variable [ReaderWording]

/-- Reads the configuration and performs a command. -/
def Command.run (command : Command) (files : FileSystem) (clock : Nat → String)
    (o : CommonOptions) : Except CommandFault Printout × FileSystem :=
  match Configuration.load files o.configuration with
  | .error fault => (.error fault, files)
  | .ok c => command.perform files c clock o.quiet

/-- Runs the program on arguments and files.  The clock writes the time at which the message of a
number is published. -/
def execute (files : FileSystem) (clock : Nat → String) (arguments : List String) : Execution :=
  match Request.ofArguments? arguments with
  | none => ⟨2, "", usageLine, files⟩
  | some .version => ⟨0, versionLine, "", files⟩
  | some (.run o command) =>
    match command.run files clock o with
    | (.ok printout, files) => ⟨0, printout.write o.format, "", files⟩
    | (.error fault, files) => ⟨1, "", if o.quiet then "" else fault.report o.format, files⟩

end SurveyDispatch
