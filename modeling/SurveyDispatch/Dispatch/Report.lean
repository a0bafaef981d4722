import SurveyDispatch.Dispatch.Pipeline
import SurveyDispatch.Dispatch.Sync

/-!
# Writing reports

What was evaluated, what happened to submissions and how much was done is written in two forms: as
a document and as a line of text.
-/

namespace SurveyDispatch

/-- Counts and their names as a document. -/
def Document.ofCounts (counts : List (String × Nat)) : Document :=
  .record (counts.map fun c => (c.1, .ofNat c.2))

/-- Counts and their names as a line. -/
def lineOfCounts (counts : List (String × Nat)) : String :=
  ", ".intercalate (counts.map fun c => s!"{c.1} {c.2}")

/-! ## Traces -/

namespace Trace

/-- The indexes as a document. -/
def toDocument (t : Trace) : Document :=
  .record [("evaluated", .list (t.evaluated.map .ofNat)), ("passed", .list (t.passed.map .ofNat))]

/-- Indexes in brackets. -/
def listIndexes (indexes : List Nat) : String :=
  "[" ++ ", ".intercalate (indexes.map toString) ++ "]"

/-- The indexes as a line. -/
def line (t : Trace) : String :=
  s!"evaluated {listIndexes t.evaluated}, passed {listIndexes t.passed}"

end Trace

/-! ## Outcomes -/

namespace Outcome

/-- The outcome as a document. -/
def toDocument : Outcome → Document
  | invalid reason => .record [("outcome", .text "invalid"), ("reason", .text reason)]
  | excluded message => .record [("outcome", .text "excluded"), ("message", .ofText? message)]
  | unrouted => .record [("outcome", .text "unrouted")]
  | unlocated reason => .record [("outcome", .text "unlocated"), ("reason", .text reason)]
  | published topic messageId =>
    .record [("outcome", .text "published"), ("topic", .text topic),
      ("message_id", .text messageId)]

/-- The outcome in words. -/
def line : Outcome → String
  | invalid reason => s!"invalid: {reason}"
  | excluded (some message) => s!"excluded: {message}"
  | excluded none => "excluded"
  | unrouted => "unrouted"
  | unlocated reason => s!"unlocated: {reason}"
  | published topic messageId => s!"published to {topic} as {messageId}"

end Outcome

/-! ## Batches -/

namespace Summary

/-- The counts as a document. -/
def toDocument (s : Summary) : Document :=
  .ofCounts [("total", s.total), ("invalid", s.invalid), ("excluded", s.excluded),
    ("unrouted", s.unrouted), ("published", s.published), ("unlocated", s.unlocated)]

/-- The counts as a line. -/
def line (s : Summary) : String :=
  lineOfCounts [("total", s.total), ("invalid", s.invalid), ("excluded", s.excluded),
    ("unrouted", s.unrouted), ("unlocated", s.unlocated), ("published", s.published)]

end Summary

namespace Report

/-- The outcomes by key as a document. -/
def outcomesDocument (r : Report) : Document :=
  .list (r.outcomes.map fun o => .list [.text o.1, o.2.toDocument])

/-- A line for each outcome. -/
def lines (r : Report) : List String := r.outcomes.map fun o => s!"{o.1}\t{o.2.line}"

end Report

/-! ## Attachments -/

namespace Attachment

/-- The parts of an attachment as fields. -/
def fields (a : Attachment) : List (String × Document) :=
  [("category", .text a.page), ("field", .text a.field), ("storage_path", .text a.storagePath),
    ("download_url", .text a.downloadUrl)]

/-- The attachment as a document. -/
def toDocument (a : Attachment) : Document := .record a.fields

/-- The attachment and its public URL as a document. -/
def toPublicDocument (s : SubmissionSettings) (a : Attachment) : Document :=
  .record (a.fields ++ [("public_url", .text (a.publicUrl s))])

/-- The attachment as a line. -/
def line (a : Attachment) : String := s!"{a.page}/{a.field}\t{a.storagePath}"

end Attachment

/-- The counts as a document. -/
def SyncSummary.toDocument (s : SyncSummary) : Document :=
  .ofCounts [("present", s.present), ("missing", s.missing), ("copied", s.copied),
    ("failed", s.failed)]

namespace StoreSyncSummary

/-- The counts as a document. -/
def toDocument (s : StoreSyncSummary) : Document :=
  .ofCounts [("total_form_count", s.total), ("invalid_form_count", s.invalid),
    ("form_with_missing_attachment_count", s.incomplete),
    ("missing_attachment_count", s.missing), ("downloaded_attachment_count", s.downloaded),
    ("failed_download_count", s.failed)]

/-- The counts as a line. -/
def line (s : StoreSyncSummary) : String :=
  lineOfCounts [("total", s.total), ("invalid", s.invalid),
    ("with missing attachments", s.incomplete), ("missing", s.missing),
    ("downloaded", s.downloaded), ("failed", s.failed)]

end StoreSyncSummary

example : (Trace.mk [0, 1] [1]).line = "evaluated [0, 1], passed [1]" := by decide

end SurveyDispatch
