import SurveyDispatch.Dispatch.Pipeline
import SurveyDispatch.Dispatch.Sync

/-!
# Sessions

A session holds a store and what was published so far.  Processing one submission or a batch of
them takes a session to the next one.

In between, a session may read, put, query and sync objects.  `Session.perform` is one such action
and `Session.after` a sequence of them.  Only processing publishes.
-/

namespace SurveyDispatch

/-- A store and what was published so far. -/
structure Session (σ : Type) where
  /-- The store of the submissions. -/
  store : σ
  /-- What was published. -/
  publisher : Publisher

namespace Session

section

variable {σ : Type} [ObjectStore σ]

/-- Processes the submission of a key. -/
def process (p : Pipeline) (s : Session σ) (key : String) :
    Except DispatchFault Outcome × Session σ :=
  let (result, publisher) := p.process s.store s.publisher key
  (result, { s with publisher })

/-- Processes the submissions under an entry prefix and a suffix. -/
def run (p : Pipeline) (s : Session σ) (entryPrefix suffix : String) :
    Except DispatchFault Report × Session σ :=
  let (result, publisher) := p.run s.store s.publisher entryPrefix suffix
  (result, { s with publisher })

end

/-! ## Actions -/

/-- What can be done in a session. -/
inductive Action where
  | put (key : String) (bytes : Bytes)
  | get (key : String)
  | contains (key : String)
  | list (front : String)
  | listSubmissions (entryPrefix suffix : String)
  | query (entryPrefix suffix : String) (query : List RuleSet)
  | process (key : String)
  | run (entryPrefix suffix : String)
  | missing (x : Submission)
  | sync (x : Submission)
  | syncStore (s : SubmissionSettings) (entryPrefix suffix : String) (skipDownload : Bool)

/-- The answer to an action. -/
inductive Reply where
  | done (result : Except StoreFault Unit)
  | bytes (result : Except StoreFault Bytes)
  | contained (result : Except StoreFault Bool)
  | objects (result : Except StoreFault (List ObjectMeta))
  | keys (result : Except StoreFault (List String))
  | outcome (result : Except DispatchFault Outcome)
  | report (result : Except DispatchFault Report)
  | attachments (result : Except StoreFault (List Attachment))
  | synced (result : Except StoreFault SyncSummary)
  | storeSynced (result : Except StoreFault StoreSyncSummary)

variable {σ : Type} [ObjectStore σ] [AttachmentSource σ]

/-- Answers an action and gives the session after it.  The state of the session holds the source of
the attachments beside the store. -/
def perform (p : Pipeline) (s : Session σ) : Action → Reply × Session σ
  | .put key bytes =>
    let (result, store) := ObjectStore.put s.store key bytes
    (.done result, { s with store })
  | .get key => (.bytes (ObjectStore.get s.store key), s)
  | .contains key => (.contained (ObjectStore.contains s.store key), s)
  | .list front => (.objects (ObjectStore.list s.store front), s)
  | .listSubmissions entryPrefix suffix =>
    (.keys (SurveyDispatch.listSubmissions s.store entryPrefix suffix), s)
  | .query entryPrefix suffix query => (.keys (queryStore s.store entryPrefix suffix query), s)
  | .process key =>
    let (result, s) := s.process p key
    (.outcome result, s)
  | .run entryPrefix suffix =>
    let (result, s) := s.run p entryPrefix suffix
    (.report result, s)
  | .missing x => (.attachments (missingAttachments s.store x), s)
  | .sync x =>
    let (result, store) := syncAttachments s.store x
    (.synced result, { s with store })
  | .syncStore settings entryPrefix suffix skipDownload =>
    let (result, store) :=
      SurveyDispatch.syncStore s.store settings entryPrefix suffix skipDownload
    (.storeSynced result, { s with store })

/-- The session after a sequence of actions. -/
def after (p : Pipeline) (s : Session σ) (actions : List Action) : Session σ :=
  actions.foldl (fun s action => (s.perform p action).2) s

end Session

end SurveyDispatch
