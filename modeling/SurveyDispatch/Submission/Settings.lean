import SurveyDispatch.Document.Fields
import SurveyDispatch.Text.Trim

/-!
# Settings of submissions

The settings say where a submission keeps its identity and its answers, which values are
attachments, and how the locations of attachments are built.

A value is an attachment if it names a file whose extension is on the list.  The file name is the
part behind the last slash.  Its extension is the part behind the last dot, where the dots at the
start of the name do not count.
-/

namespace SurveyDispatch

/-- The settings of submissions. -/
structure SubmissionSettings where
  /-- The path of the provider id. -/
  providerIdPath : String := "ProviderId"
  /-- The path of the submission id. -/
  submissionIdPath : String := "Entry/DsRowId"
  /-- The path of the form code. -/
  formCodePath : String := "Entry/FormCode"
  /-- The path of the answers, which are pages of fields. -/
  answersPath : String := "Entry/AnswersJson"
  /-- The extensions of attachments, with or without a dot in front. -/
  imageExtensions : List String := [".jpg", ".jpeg", ".png"]
  /-- Whether extensions are compared without regard to the case of ASCII letters. -/
  caseInsensitiveExtensions : Bool := false
  /-- The first part of the names of stored attachments. -/
  storagePath : String := "attachments"
  /-- The bucket of stored attachments. -/
  storageBucket : String := "formroute-attachments"
  /-- The start of public URLs. -/
  publicUrlBase : String := "https://storage.googleapis.com/storage/v1/b"
  /-- The start of download URLs. -/
  downloadBaseUrl : String := "https://forms.example.com/attachments"
  deriving DecidableEq, Repr

namespace SubmissionSettings

/-- The built-in settings. -/
def default : SubmissionSettings := {}

/-- The extension of a file name. -/
def extension? (value : List Char) : Option (List Char) :=
  let stem := (Text.afterLast '/' value).dropWhile (· == '.')
  if '.' ∈ stem then some (Text.afterLast '.' stem) else none

/-- An entry of the list of extensions, without one dot in front. -/
def withoutDot : List Char → List Char
  | '.' :: rest => rest
  | entry => entry

/-- Whether an extension is on the list. -/
def isListed (s : SubmissionSettings) (extension : List Char) : Bool :=
  s.imageExtensions.any fun entry =>
    let entry := withoutDot entry.toList
    if s.caseInsensitiveExtensions then
      entry.map Char.toLower == extension.map Char.toLower
    else entry == extension

/-- Whether a value is an attachment. -/
def isAttachment (s : SubmissionSettings) (value : String) : Bool :=
  match extension? value.toList with
  | some extension => s.isListed extension
  | none => false

open Document

/-- Reads settings.  Every field has its default. -/
def ofDocument? (c : Conventions) (d : Document) : Option SubmissionSettings := do
  match ← d.fieldValues? c [["provider_id_path"], ["submission_id_path"], ["form_code_path"],
      ["answers_path"], ["image_extensions"], ["case_insensitive_extensions"], ["storage_path"],
      ["storage_bucket"], ["public_url_base"], ["download_base_url"]] with
  | [provider, submission, code, answers, extensions, anyCase, path, bucket, publicBase,
      downloadBase] =>
    return {
      providerIdPath := ← orElse default.providerIdPath asText? provider
      submissionIdPath := ← orElse default.submissionIdPath asText? submission
      formCodePath := ← orElse default.formCodePath asText? code
      answersPath := ← orElse default.answersPath asText? answers
      imageExtensions := ← orElse default.imageExtensions (asList? asText?) extensions
      caseInsensitiveExtensions := ← orElse default.caseInsensitiveExtensions asBool? anyCase
      storagePath := ← orElse default.storagePath asText? path
      storageBucket := ← orElse default.storageBucket asText? bucket
      publicUrlBase := ← orElse default.publicUrlBase asText? publicBase
      downloadBaseUrl := ← orElse default.downloadBaseUrl asText? downloadBase }
  | _ => failure

/-- Writes settings. -/
def toDocument (s : SubmissionSettings) : Document :=
  .record [("provider_id_path", .text s.providerIdPath),
    ("submission_id_path", .text s.submissionIdPath), ("form_code_path", .text s.formCodePath),
    ("answers_path", .text s.answersPath), ("image_extensions", ofTexts s.imageExtensions),
    ("case_insensitive_extensions", .bool s.caseInsensitiveExtensions),
    ("storage_path", .text s.storagePath), ("storage_bucket", .text s.storageBucket),
    ("public_url_base", .text s.publicUrlBase), ("download_base_url", .text s.downloadBaseUrl)]

example : extension? "a/b.c.png".toList = some "png".toList := by decide
example : extension? "..jpg".toList = none := by decide
example : default.isAttachment "a.JPG" = false := by decide

end SubmissionSettings

end SurveyDispatch
