import SurveyDispatch.Dispatch.Message
import SurveyDispatch.Proofs.Document.Outlines

/-!
# Messages reach their consumers

A consumer gets the bytes of a message in a push body (`Message.pushBody`) and reads the message
from it.  A body is always an envelope, and its data are always the bytes that were put in
(`Message.ofPush_pushBody`).

Whether the bytes are a message again depends on the survey.  The reader allows 127 levels, one of
them is the message itself, and deeper surveys are refused (`Message.ofBytes?_toBytes`).
-/

namespace SurveyDispatch

namespace Document

theorem readTextOnly?_bytes (s : String) : readTextOnly? (text s).bytes = some s := by
  rw [readTextOnly?, readWithin?_bytes (distinct_text s) (readsBack_text s)]
  rfl

theorem readTextOrNull?_bytes (s : Option String) :
    readTextOrNull? (ofText? s).bytes = some s := by
  cases s with
  | none => rfl
  | some s =>
    rw [readTextOrNull?, ofText?, readWithin?_bytes (distinct_text s) (readsBack_text s)]
    rfl

end Document

namespace Message

open Document

/-! ## Messages -/

/-- What a message says about itself. -/
def metadata (m : Message) : Document :=
  record [("source", text m.source), ("topic", text m.topic), ("published_at", text m.publishedAt)]

theorem readsBack_metadata (m : Message) : m.metadata.ReadsBack := by
  simp only [metadata, readsBack_record_iff, List.forall_mem_cons, readsBack_text, true_and]
  exact List.forall_mem_nil _

theorem toDocument_eq (m : Message) :
    m.toDocument = record [("appee_survey", m.survey), ("gobits", m.metadata)] := rfl

theorem toBytes_eq (m : Message) : m.toBytes = m.toDocument.bytes := rfl

/-- A written message has its survey and its metadata under their names. -/
theorem rawFields?_toBytes {m : Message} (h : m.survey.ReadsBack) :
    rawFields? ["appee_survey", "gobits"] m.toBytes =
      some [some m.survey.bytes, some m.metadata.bytes] := by
  have whole : m.toDocument.ReadsBack := by
    simp only [toDocument_eq, readsBack_record_iff, List.forall_mem_cons, h, readsBack_metadata,
      true_and]
    exact List.forall_mem_nil _
  rw [toBytes_eq, toDocument_eq, rawFields?_bytes (toDocument_eq m ▸ whole)]
  simp [rawValueOf?]

/-- Written metadata has its three texts under their names. -/
theorem rawFields?_metadata (m : Message) :
    rawFields? ["source", "topic", "published_at"] m.metadata.bytes =
      some [some (text m.source).bytes, some (text m.topic).bytes,
        some (text m.publishedAt).bytes] := by
  rw [metadata, rawFields?_bytes (readsBack_metadata m)]
  simp [rawValueOf?]

/-- A message is read back if its survey does not nest too deep, and refused if it does. -/
theorem ofBytes?_toBytes {m : Message} (distinct : m.survey.Distinct) (h : m.survey.ReadsBack) :
    ofBytes? m.toBytes = if m.survey.depth ≤ surveyDepth then some m else none := by
  rw [ofBytes?, rawFields?_toBytes h]
  simp only [Option.bind_eq_bind, Option.bind_some, rawFields?_metadata, readTextOnly?_bytes,
    readWithin?_bytes distinct h, within]
  split <;> rfl

/-! ## Push bodies -/

/-- The data of a payload and the id of the delivery, which may be absent or null. -/
def delivery (payload : Bytes) (id : Option (Option String)) : Document :=
  record (("data", text (String.ofList (Base64.encode payload))) ::
    (id.map fun id => ("messageId", ofText? id)).toList)

/-- The body that a payload is pushed in. -/
def pushBody (payload : Bytes) (id : Option (Option String)) : Bytes :=
  (record [("message", delivery payload id)]).bytes

theorem readsBack_delivery (payload : Bytes) (id : Option (Option String)) :
    (delivery payload id).ReadsBack := by
  have texts : ∀ s, (ofText? s).ReadsBack := by
    intro s n mem
    cases s <;> cases mem
  unfold delivery
  simp only [readsBack_record_iff, List.forall_mem_cons, readsBack_text, true_and]
  intro f mem
  obtain ⟨id, -, rfl⟩ := Option.map_eq_some_iff.mp (Option.mem_toList.mp mem)
  exact texts id

/-- The body of a push has its delivery under its name. -/
theorem rawFields?_pushBody (payload : Bytes) (id : Option (Option String)) :
    rawFields? ["message"] (pushBody payload id) = some [some (delivery payload id).bytes] := by
  have whole : (record [("message", delivery payload id)]).ReadsBack := by
    simp only [readsBack_record_iff, List.forall_mem_cons, readsBack_delivery, true_and]
    exact List.forall_mem_nil _
  rw [pushBody, rawFields?_bytes whole]
  simp [rawValueOf?]

/-- A delivery has its payload and its id under their names, the id only if there is one. -/
theorem rawFields?_delivery (payload : Bytes) (id : Option (Option String)) :
    rawFields? ["data", "messageId"] (delivery payload id).bytes =
      some [some (text (String.ofList (Base64.encode payload))).bytes,
        id.map fun id => (ofText? id).bytes] := by
  have outline := rawFields?_bytes (readsBack_delivery payload id) ["data", "messageId"]
  rw [← delivery] at outline
  rw [outline]
  cases id <;> simp [rawValueOf?]

/-- A body gives the data of its payload. -/
theorem envelopeData?_pushBody (payload : Bytes) (id : Option (Option String)) :
    envelopeData? (pushBody payload id) = some (String.ofList (Base64.encode payload)) := by
  rw [envelopeData?, rawFields?_pushBody]
  simp only [Option.bind_eq_bind, Option.bind_some, rawFields?_delivery]
  cases id with
  | none => exact readTextOnly?_bytes _
  | some id =>
    simp only [Option.map_some, readTextOrNull?_bytes, Option.bind_some]
    exact readTextOnly?_bytes _

/-- A body gives the message that its payload holds, if it holds one. -/
theorem ofPush_pushBody (payload : Bytes) (id : Option (Option String)) :
    ofPush (pushBody payload id) =
      match ofBytes? payload with
      | none => .error .notAMessage
      | some m => .ok m := by
  have data : Base64.decode (String.ofList (Base64.encode payload)).toList = some payload := by
    rw [String.toList_ofList, Base64.decode_encode]
  cases held : ofBytes? payload with
  | none => simp only [ofPush, envelopeData?_pushBody, data, held]
  | some m => simp only [ofPush, envelopeData?_pushBody, data, held]

end Message

end SurveyDispatch
