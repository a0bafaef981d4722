import SurveyDispatch.Dispatch.Listing
import SurveyDispatch.Submission.Basic

/-!
# Syncing attachments

Attachments that are missing in a store are fetched from a source.  A download that fails is
counted and leaves the attachment missing.  A store that fails ends the sync.

The state holds both the store and the source.  It is given back also where the sync fails.
-/

namespace SurveyDispatch

/-- Counts over the attachments of a submission. -/
structure SyncSummary where
  /-- Those that were in the store. -/
  present : Nat := 0
  /-- Those that were not in the store. -/
  missing : Nat := 0
  /-- Those that were copied. -/
  copied : Nat := 0
  /-- Those whose download failed. -/
  failed : Nat := 0
  deriving DecidableEq, Repr

/-- Counts over the attachments of stored submissions. -/
structure StoreSyncSummary where
  /-- The listed keys. -/
  total : Nat := 0
  /-- Those whose bytes are no submission. -/
  invalid : Nat := 0
  /-- The submissions with an attachment that is missing. -/
  incomplete : Nat := 0
  /-- The attachments that are missing. -/
  missing : Nat := 0
  /-- Those that were downloaded. -/
  downloaded : Nat := 0
  /-- Those whose download failed. -/
  failed : Nat := 0
  deriving DecidableEq, Repr

section

variable {σ : Type} [ObjectStore σ]

/-- The attachments that are not in a store. -/
def missingAmong (store : σ) : List Attachment → Except StoreFault (List Attachment)
  | [] => .ok []
  | a :: rest =>
    match ObjectStore.contains store a.storagePath with
    | .error fault => .error fault
    | .ok true => missingAmong store rest
    | .ok false => (missingAmong store rest).map (a :: ·)

/-- The attachments of a submission that are not in a store. -/
def missingAttachments (store : σ) (x : Submission) : Except StoreFault (List Attachment) :=
  missingAmong store x.attachments

variable [AttachmentSource σ]

/-- Copies attachments from the source to the store and counts on. -/
def copyAttachments : σ → SyncSummary → List Attachment → Except StoreFault SyncSummary × σ
  | state, summary, [] => (.ok summary, state)
  | state, summary, a :: rest =>
    match AttachmentSource.fetch state a.downloadUrl with
    | (.error _, state) =>
      copyAttachments state { summary with failed := summary.failed + 1 } rest
    | (.ok bytes, state) =>
      match ObjectStore.put state a.storagePath bytes with
      | (.error fault, state) => (.error fault, state)
      | (.ok (), state) =>
        copyAttachments state { summary with copied := summary.copied + 1 } rest

/-- Copies the missing attachments of a submission. -/
def syncAttachments (state : σ) (x : Submission) : Except StoreFault SyncSummary × σ :=
  match missingAttachments state x with
  | .error fault => (.error fault, state)
  | .ok missing =>
    copyAttachments state
      { present := x.attachments.length - missing.length, missing := missing.length } missing

/-- Copies the missing attachments of a submission and counts on, or only counts them. -/
def syncNext (skipDownload : Bool) (state : σ) (summary : StoreSyncSummary) (x : Submission) :
    Except StoreFault StoreSyncSummary × σ :=
  match missingAttachments state x with
  | .error fault => (.error fault, state)
  | .ok [] => (.ok summary, state)
  | .ok missing =>
    let summary := { summary with
      incomplete := summary.incomplete + 1, missing := summary.missing + missing.length }
    if skipDownload then (.ok summary, state)
    else match copyAttachments state {} missing with
    | (.error fault, state) => (.error fault, state)
    | (.ok copy, state) => (.ok { summary with
        downloaded := summary.downloaded + copy.copied,
        failed := summary.failed + copy.failed }, state)

/-- Goes through the submissions of keys and counts on. -/
def syncKeys (s : SubmissionSettings) (skipDownload : Bool) :
    σ → StoreSyncSummary → List String → Except StoreFault StoreSyncSummary × σ
  | state, summary, [] => (.ok summary, state)
  | state, summary, key :: rest =>
    let summary := { summary with total := summary.total + 1 }
    match ObjectStore.get state key with
    | .error fault => (.error fault, state)
    | .ok bytes =>
      match Submission.ofBytes s bytes with
      | .error _ =>
        syncKeys s skipDownload state { summary with invalid := summary.invalid + 1 } rest
      | .ok x =>
        match syncNext skipDownload state summary x with
        | (.error fault, state) => (.error fault, state)
        | (.ok summary, state) => syncKeys s skipDownload state summary rest

/-- Copies the missing attachments of the submissions under an entry prefix and a suffix into the
store that holds them, or only counts them. -/
def syncStore (state : σ) (s : SubmissionSettings) (entryPrefix suffix : String)
    (skipDownload : Bool) : Except StoreFault StoreSyncSummary × σ :=
  match listSubmissions state entryPrefix suffix with
  | .error fault => (.error fault, state)
  | .ok keys => syncKeys s skipDownload state {} keys

end

end SurveyDispatch
