import SurveyDispatch.Document.Outline
import SurveyDispatch.Document.Writer
import SurveyDispatch.Text.Base64

/-!
# Messages

A message carries a survey, which is the GeoJSON of a located submission, and says where the survey
comes from, on which topic it was published and when.  It is written as a JSON document.

Consumers get messages pushed to them in an envelope that holds the bytes of a message as base64.
-/

namespace SurveyDispatch

/-- A message of the dispatch. -/
structure Message where
  /-- The GeoJSON of the submission. -/
  survey : Document
  /-- The object key of the submission. -/
  source : String
  /-- The topic it was published on. -/
  topic : String
  /-- The time it was published at. -/
  publishedAt : String

/-- Why a push body holds no message. -/
inductive PushFault where
  /-- The body is not an envelope. -/
  | notAnEnvelope
  /-- The data are not base64. -/
  | notBase64
  /-- The data are not a message. -/
  | notAMessage
  deriving DecidableEq, Repr

/-- The wording of a fault. -/
def PushFault.message : PushFault → String
  | notAnEnvelope | notAMessage => "invalid push envelope"
  | notBase64 => "invalid push envelope: data is not base64"

namespace Message

/-- The message as a document. -/
def toDocument (m : Message) : Document :=
  .record [("appee_survey", m.survey),
    ("gobits", .record [("source", .text m.source), ("topic", .text m.topic),
      ("published_at", .text m.publishedAt)])]

/-- The bytes of a message. -/
def toBytes (m : Message) : Bytes := Utf8.encodeChars m.toDocument.chars

/-- How deep a survey may nest: one level of the whole is the message itself. -/
def surveyDepth : Nat := Document.maxDepth - 1

open Document

/-- The message that bytes hold. -/
def ofBytes? (bytes : Bytes) : Option Message := do
  match ← rawFields? ["appee_survey", "gobits"] bytes with
  | [some survey, some metadata] =>
    let survey ← readWithin? surveyDepth survey
    match ← rawFields? ["source", "topic", "published_at"] metadata with
    | [some source, some topic, some publishedAt] =>
      return ⟨survey, ← readTextOnly? source, ← readTextOnly? topic, ← readTextOnly? publishedAt⟩
    | _ => failure
  | _ => failure

/-- The data of the envelope that bytes hold.  The id of the delivery may be absent or null. -/
def envelopeData? (bytes : Bytes) : Option String := do
  match ← rawFields? ["message"] bytes with
  | [some delivery] =>
    match ← rawFields? ["data", "messageId"] delivery with
    | [some data, id] =>
      match id with
      | some id => let _ ← readTextOrNull? id
      | none => pure ()
      readTextOnly? data
    | _ => failure
  | _ => failure

/-- The message in the envelope of a push body. -/
def ofPush (body : Bytes) : Except PushFault Message :=
  match envelopeData? body with
  | none => .error .notAnEnvelope
  | some data =>
    match Base64.decode data.toList with
    | none => .error .notBase64
    | some bytes =>
      match ofBytes? bytes with
      | none => .error .notAMessage
      | some m => .ok m

end Message

end SurveyDispatch
