import SurveyDispatch.Dispatch.Fault
import SurveyDispatch.Location.Address
import SurveyDispatch.Number.Real64
import SurveyDispatch.Rule.Configuration
import SurveyDispatch.Submission.Basic

/-!
# Faults of commands

A command ends with the first fault, of its files, its arguments or its collaborators.
-/

namespace SurveyDispatch

/-- Why a text cannot be read from a file. -/
inductive TextFault where
  /-- The file cannot be read. -/
  | file (fault : FileFault)
  /-- The bytes of the file encode no text. -/
  | notText
  deriving DecidableEq, Repr

/-- The wording of a fault. -/
def TextFault.message : TextFault → String
  | file fault => fault.message
  | notText => "stream did not contain valid UTF-8"

/-- Why a command fails. -/
inductive CommandFault where
  /-- The configuration cannot be read. -/
  | unreadableConfiguration (path : String) (fault : TextFault)
  /-- The configuration is malformed. -/
  | malformedConfiguration (path : String)
  /-- The configured rules are faulty. -/
  | rules (fault : RuleFault)
  /-- The configured address pattern is faulty. -/
  | addressPattern (fault : AddressFault)
  /-- The file of a submission cannot be read. -/
  | unreadableFile (path : String) (fault : FileFault)
  /-- A file holds no submission.  The reader may say something about its bytes. -/
  | invalidSubmission (path : String) (fault : SubmissionFault) (said : Option String)
  /-- A query is neither a document nor the path of a file that can be read. -/
  | unreadableQuery (query : String) (fault : TextFault)
  /-- The file of a query holds no document.  The reader may say something about its text. -/
  | malformedQuery (path : String) (said : Option String)
  /-- The rules of a query are faulty. -/
  | queryRules (fault : RuleFault)
  /-- Coordinates are not two texts with a comma between them. -/
  | notAPair (text : String)
  /-- A coordinate is not a number. -/
  | notACoordinate (text : String) (fault : RealFault)
  /-- Attachments are to be downloaded, but no source is named. -/
  | noSource
  /-- A collaborator failed. -/
  | dispatch (fault : DispatchFault)
  deriving DecidableEq, Repr

/-- The wording of a fault. -/
def CommandFault.message : CommandFault → String
  | unreadableConfiguration path fault => s!"error reading config '{path}': {fault.message}"
  | malformedConfiguration path => s!"error in config '{path}'"
  | rules fault => s!"error in rules: {fault.message}"
  | addressPattern fault => s!"error in [geo]: {fault.message}"
  | unreadableFile path fault => s!"error reading file '{path}': {fault.message}"
  | invalidSubmission path fault said => s!"invalid submission '{path}': {fault.message said}"
  | unreadableQuery query fault =>
    s!"query is neither JSON nor a readable file '{query}': {fault.message}"
  | malformedQuery path said => ReaderWording.append s!"error parsing JSON in '{path}'" said
  | queryRules fault => s!"error in query: {fault.message}"
  | notAPair text => s!"expected LAT,LON, got '{text}'"
  | notACoordinate text fault => s!"invalid coordinate '{text}': {fault.message}"
  | noSource => "--source is required unless --skip-download is given"
  | dispatch fault => fault.message

end SurveyDispatch
