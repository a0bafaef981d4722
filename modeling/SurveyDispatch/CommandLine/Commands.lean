import SurveyDispatch.CommandLine.Arguments
import SurveyDispatch.CommandLine.Fault
import SurveyDispatch.Dispatch.Configuration
import SurveyDispatch.Dispatch.Report
import SurveyDispatch.RangePattern
import SurveyDispatch.Store.Directory

/-!
# Commands

A command works on the files below the working directory and gives a printout, which has two forms:
lines of text and a document.  Only the syncing of attachments changes files.
-/

namespace SurveyDispatch

/-- What a command prints, in both forms. -/
structure Printout where
  /-- The lines of text. -/
  lines : List String
  /-- The document. -/
  document : Document

namespace Printout

/-- A document that also stands for its lines. -/
def ofDocument (d : Document) : Printout := ⟨[d.writeLines], d⟩

/-- The text of a printout in a form. -/
def write (p : Printout) : OutputFormat → String
  | .text => String.join (p.lines.map (· ++ "\n"))
  | .json => p.document.writeLines ++ "\n"

end Printout

variable [reader : ReaderWording]

/-! ## Reading files and arguments -/

/-- The text of a file. -/
def FileSystem.readText (files : FileSystem) (path : String) : Except TextFault String := do
  match Utf8.decode (← (files.read path).mapError .file) with
  | some text => .ok text
  | none => .error .notText

/-- The configuration of a file, or the built-in one. -/
def Configuration.load (files : FileSystem) : Option String → Except CommandFault Configuration
  | none => .ok .default
  | some path => do
    let text ← (files.readText path).mapError (.unreadableConfiguration path)
    match ofFile? text with
    | some c => .ok c
    | none => .error (.malformedConfiguration path)

/-- The submission in a file. -/
def Submission.load (files : FileSystem) (s : SubmissionSettings) (path : String) :
    Except CommandFault Submission := do
  let bytes ← (files.read path).mapError (.unreadableFile path)
  (ofBytes s bytes).mapError (.invalidSubmission path · (reader.refusal? bytes))

/-- The document that a query is, or else the document in the file that it names. -/
def queryDocument (files : FileSystem) (query : String) : Except CommandFault Document :=
  match Document.ofText query with
  | some d => .ok d
  | none => do
    let text ← (files.readText query).mapError (.unreadableQuery query)
    match Document.ofText text with
    | some d => .ok d
    | none => .error (.malformedQuery query (reader.refusal? (Utf8.encode text)))

/-- A coordinate with blanks around it. -/
def readCoordinate (text : List Char) : Except CommandFault Real64 :=
  let text := Text.trim text
  (Real64.read text).mapError (.notACoordinate (.ofList text))

/-- Coordinates as two numbers with a comma between them, first the latitude. -/
def Coordinates.read (text : String) : Except CommandFault Coordinates :=
  match text.toList.span (· != ',') with
  | (latitude, _ :: longitude) => do
    return ⟨← readCoordinate latitude, ← readCoordinate longitude⟩
  | (_, []) => .error (.notAPair text)

/-! ## Single submissions -/

/-- The trace as a field, if it is asked for. -/
def traceFields (asked : Bool) (t : Trace) : List (String × Document) :=
  if asked then [("trace", t.toDocument)] else []

/-- The trace as a line, if it is asked for. -/
def traceLines (asked : Bool) (t : Trace) : List String := if asked then [t.line] else []

/-- The lines of a screening. -/
def verdictLines (quiet : Bool) (v : Verdict) : List String :=
  match v.matched, v.message with
  | true, some message => [s!"excluded: {message}"]
  | true, none => ["excluded"]
  | false, _ => if quiet then [] else ["not excluded"]

/-- Checks the submission in a file against the exclusions. -/
def screenFile (files : FileSystem) (c : Configuration) (quiet : Bool) (file : String)
    (trace : Bool) : Except CommandFault Printout := do
  let engine ← c.engine.mapError .rules
  let x ← Submission.load files c.submissions file
  let (v, traced) := RuleSet.firstMatchTraced x.record engine.exclusions .empty
  return ⟨verdictLines quiet v ++ traceLines trace traced,
    .record ([("excluded", .bool v.matched), ("alert", .ofText? v.message)] ++
      traceFields trace traced)⟩

/-- Selects the topic of the submission in a file. -/
def routeFile (files : FileSystem) (c : Configuration) (file : String) (trace : Bool) :
    Except CommandFault Printout := do
  let engine ← c.engine.mapError .rules
  let x ← Submission.load files c.submissions file
  let (payload, traced) :=
    RuleSet.lastMatchTraced x.record engine.routes engine.defaultRoute .empty
  let topic := engine.routeTopic x.record
  return ⟨topic.getD "no route" :: traceLines trace traced,
    .record ([("topic", .ofText? topic), ("routing_data", .orNull payload)] ++
      traceFields trace traced)⟩

/-- The compiled record of the submission in a file. -/
def compileFile (files : FileSystem) (c : Configuration) (file : String) :
    Except CommandFault Printout := do
  let x ← Submission.load files c.submissions file
  return .ofDocument (x.compiled c.submissions)

/-- The attachments of the submission in a file. -/
def attachmentsOfFile (files : FileSystem) (c : Configuration) (file : String) :
    Except CommandFault Printout := do
  let x ← Submission.load files c.submissions file
  return ⟨x.attachments.map (·.line),
    .list (x.attachments.map (·.toPublicDocument c.submissions))⟩

/-! ## Stores -/

/-- The submissions of a store that match a query. -/
def queryFiles (files : FileSystem) (c : Configuration) (root suffix query : String) :
    Except CommandFault Printout := do
  let sets ← (RuleSet.ofDocument (← queryDocument files query)).mapError .queryRules
  let store : DirectoryStore := ⟨files, root⟩
  let keys ← (queryStore store c.entryPrefix suffix sets).mapError fun fault =>
    .dispatch (.store fault)
  return ⟨keys, .record [("matching_forms", .ofTexts keys)]⟩

/-- A published message as a document.  Bytes that hold no document are null. -/
def Published.toDocument (p : Published) : Document :=
  .record [("id", .text p.id), ("topic", .text p.topic),
    ("message", .orNull (Document.read? p.payload))]

/-- Processes the submissions of a store.  Without coordinates no address is located, and else all
of them are located there. -/
def processFiles (files : FileSystem) (c : Configuration) (clock : Nat → String) (quiet : Bool)
    (root suffix : String) (coordinates : Option String) : Except CommandFault Printout := do
  let engine ← c.engine.mapError .rules
  let addresses ← (AddressParser.ofSettings c.locations).mapError .addressPattern
  let point ← coordinates.mapM Coordinates.read
  let store : DirectoryStore := ⟨files, root⟩
  let pipeline : Pipeline := ⟨engine, c.submissions, addresses, fun _ => .ok point, clock⟩
  let (result, publisher) := pipeline.run store .empty c.entryPrefix suffix
  let report ← result.mapError .dispatch
  return ⟨(if quiet then [] else report.lines) ++ [report.summary.line],
    .record [("published", .list (publisher.messages.map (·.toDocument))),
      ("outcomes", report.outcomesDocument), ("summary", report.summary.toDocument)]⟩

/-- Copies the missing attachments of the submissions of a store from a source, or only counts
them. -/
def syncFiles (files : FileSystem) (c : Configuration) (root suffix : String)
    (source : Option String) (skipDownload : Bool) : Except CommandFault Printout × FileSystem :=
  if source.isNone && !skipDownload then (.error .noSource, files)
  else
    let stores : LocalStores := ⟨files, root, source.getD root, c.submissions.downloadBaseUrl⟩
    match syncStore stores c.submissions c.entryPrefix suffix skipDownload with
    | (.ok summary, stores) => (.ok ⟨[summary.line], summary.toDocument⟩, stores.files)
    | (.error fault, stores) => (.error (.dispatch (.store fault)), stores.files)

/-! ## All commands -/

/-- Performs a command. -/
def Command.perform (files : FileSystem) (c : Configuration) (clock : Nat → String)
    (quiet : Bool) : Command → Except CommandFault Printout × FileSystem
  | query store suffix rules => (queryFiles files c store suffix rules, files)
  | screen file trace => (screenFile files c quiet file trace, files)
  | route file trace => (routeFile files c file trace, files)
  | compile file => (compileFile files c file, files)
  | attachments file => (attachmentsOfFile files c file, files)
  | expand pattern =>
    (.ok ⟨expandRanges pattern, .ofTexts (expandRanges pattern)⟩, files)
  | process store suffix coordinates =>
    (processFiles files c clock quiet store suffix coordinates, files)
  | sync store suffix source skipDownload => syncFiles files c store suffix source skipDownload

end SurveyDispatch
