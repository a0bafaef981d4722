import SurveyDispatch.Submission.Settings
import SurveyDispatch.Document.Path
import SurveyDispatch.Document.Reader
import SurveyDispatch.Document.Writer
import SurveyDispatch.Rule.Engine
import SurveyDispatch.Text.FormEncoding

/-!
# Submissions

A submission is a record with an identity and an answers section of pages.  Every field of a page
whose value names an image file is an attachment.  The places where an attachment is stored and
downloaded from follow from the identity of the submission, the field and the file name.

The record itself is never changed.  The *compiled* record is a copy in which every attachment
field holds the public URL of the stored object.
-/

namespace SurveyDispatch

/-- Why a document is not a submission. -/
inductive SubmissionFault where
  /-- A part is absent or null. -/
  | missing (part path : String)
  /-- A part of the identity is neither text nor number. -/
  | notIdentifying (part path kind : String)
  /-- The answers are not a record of pages. -/
  | answersNotPages (path : String)
  /-- The bytes are not a document. -/
  | unreadable
  deriving DecidableEq, Repr

/-- The wording of a fault.  That of bytes which are no document ends with what the reader said. -/
def SubmissionFault.message (fault : SubmissionFault) (said : Option String := none) : String :=
  match fault with
  | missing part path => s!"missing {part} at '{path}'"
  | notIdentifying part path kind => s!"{part} at '{path}' must be a string or number, got {kind}"
  | answersNotPages path => s!"answers at '{path}' must be an object of pages"
  | unreadable => ReaderWording.append "invalid submission JSON" said

/-- Who a submission is. -/
structure Identity where
  /-- The provider of the submission. -/
  providerId : String
  /-- The submission among those of its provider. -/
  submissionId : String
  /-- The form that was filled in. -/
  formCode : String
  deriving DecidableEq, Repr

/-- An image named in the answers. -/
structure Attachment where
  /-- The page of the field. -/
  page : String
  /-- The field that names the image. -/
  field : String
  /-- The name of the stored object. -/
  storagePath : String
  /-- Where the image is downloaded from. -/
  downloadUrl : String
  deriving DecidableEq, Repr

/-- A valid submission. -/
structure Submission where
  /-- The record as it was submitted. -/
  record : Document
  /-- Who the submission is. -/
  identity : Identity
  /-- Its attachments in document order. -/
  attachments : List Attachment

namespace Identity

/-- A part of the identity: a text, or a number in writing. -/
def part (record : Document) (name path : String) : Except SubmissionFault String :=
  match record.lookup path with
  | none | some .null => .error (.missing name path)
  | some (.text s) => .ok s
  | some (.number n) => .ok (.ofList n.write)
  | some d => .error (.notIdentifying name path d.kind)

/-- The identity of a record. -/
def ofRecord (s : SubmissionSettings) (record : Document) : Except SubmissionFault Identity := do
  return ⟨← part record "provider id" s.providerIdPath,
    ← part record "submission id" s.submissionIdPath, ← part record "form code" s.formCodePath⟩

/-- What the names of the stored attachments of a submission start with. -/
def storageFront (s : SubmissionSettings) (i : Identity) : String :=
  s!"{s.storagePath}/{i.providerId}/{i.formCode}/{i.submissionId}"

/-- What the download URLs of a submission start with. -/
def downloadFront (s : SubmissionSettings) (i : Identity) : String :=
  s!"{s.downloadBaseUrl}/{i.providerId}-{i.submissionId}"

end Identity

namespace Attachment

/-- The attachment that a field with a file name is. -/
def ofField (s : SubmissionSettings) (i : Identity) (page field file : String) : Attachment :=
  ⟨page, field, s!"{i.storageFront s}/{field}_{file}", s!"{i.downloadFront s}{file}"⟩

/-- The attachments of the fields of a page. -/
def ofFields (s : SubmissionSettings) (i : Identity) (page : String)
    (fields : List (String × Document)) : List Attachment :=
  fields.filterMap fun (field, value) =>
    match value with
    | .text file => if s.isAttachment file then some (ofField s i page field file) else none
    | _ => none

/-- The attachments of pages.  A page that is not a record has none. -/
def ofPages (s : SubmissionSettings) (i : Identity) (pages : List (String × Document)) :
    List Attachment :=
  pages.flatMap fun (page, value) =>
    match value with
    | .record fields => ofFields s i page fields
    | _ => []

/-- The public URL of the stored object. -/
def publicUrl (s : SubmissionSettings) (a : Attachment) : String :=
  .ofList ((Text.trimEnd '/' s.publicUrlBase).toList ++ '/' :: s.storageBucket.toList ++
    "/o/".toList ++ FormEncoding.encode FormEncoding.keptInName a.storagePath ++
    "?alt=media".toList)

/-- The segments of the field in its record. -/
def segments (s : SubmissionSettings) (a : Attachment) : List String :=
  Document.segments s.answersPath ++ [a.page, a.field]

end Attachment

namespace Submission

/-- The pages of the answers of a record. -/
def pages (s : SubmissionSettings) (record : Document) :
    Except SubmissionFault (List (String × Document)) :=
  match record.lookup s.answersPath with
  | none | some .null => .error (.missing "answers" s.answersPath)
  | some (.record pages) => .ok pages
  | some _ => .error (.answersNotPages s.answersPath)

/-- The submission of a record. -/
def ofRecord (s : SubmissionSettings) (record : Document) : Except SubmissionFault Submission := do
  let identity ← Identity.ofRecord s record
  return ⟨record, identity, Attachment.ofPages s identity (← pages s record)⟩

/-- The submission that a sequence of bytes holds. -/
def ofBytes (s : SubmissionSettings) (bytes : Bytes) : Except SubmissionFault Submission :=
  match Document.read? bytes with
  | some record => ofRecord s record
  | none => .error .unreadable

/-- The compiled record. -/
def compiled (s : SubmissionSettings) (x : Submission) : Document :=
  x.attachments.foldl (fun d a => Document.replaceAt (.text (a.publicUrl s)) (a.segments s) d)
    x.record

end Submission

end SurveyDispatch
