import Mathlib.Algebra.Order.Ring.Nat
import SurveyDispatch.Proofs.Sync.Copying

/-!
# Visiting a submission

A sync visits a submission: it finds out which attachments are lacking, and copies those unless it
only counts.  `Visits` says what the visit comes to.  Both `syncAttachments` and the loop over
stored submissions are visits, also where the loop leaves out the copying because nothing is
lacking.

A visit keeps the store, since it only puts what was lacking (`Visits.keptIn`).
-/

namespace SurveyDispatch

/-- The summary after some keys were gone through: how many of them, how many without a submission,
and what the visits to the others came to. -/
def StoreSyncSummary.plus (r : StoreSyncSummary) (listed invalid : Nat)
    (visits : List SyncSummary) : StoreSyncSummary where
  total := r.total + listed
  invalid := r.invalid + invalid
  incomplete := r.incomplete + visits.countP fun v => 0 < v.missing
  missing := r.missing + (visits.map (·.missing)).sum
  downloaded := r.downloaded + (visits.map (·.copied)).sum
  failed := r.failed + (visits.map (·.failed)).sum

variable {τ : Type} [AttachmentSource τ]

/-- A visit to a submission, which copies or only counts. -/
structure Visits (skipDownload : Bool) (s : MemoryStore × τ) (x : Submission) (v : SyncSummary)
    (s' : MemoryStore × τ) : Prop where
  /-- Every attachment is present or missing. -/
  total : v.present + v.missing = x.attachments.length
  /-- The missing ones are those that the store lacks. -/
  missing : v.missing = (s.1.lacking x.attachments).length
  /-- They are copied, unless the visit only counts. -/
  copies : Copies s (if skipDownload then [] else s.1.lacking x.attachments) v.copied v.failed s'

theorem exists_visits (skipDownload : Bool) (s : MemoryStore × τ) (x : Submission) :
    ∃ v s', Visits skipDownload s x v s' := by
  obtain ⟨copied, failed, s', copies⟩ :=
    exists_copies (if skipDownload then [] else s.1.lacking x.attachments) s
  have fewer : (s.1.lacking x.attachments).length ≤ x.attachments.length :=
    List.length_filter_le _ _
  exact ⟨⟨x.attachments.length - (s.1.lacking x.attachments).length,
    (s.1.lacking x.attachments).length, copied, failed⟩, s',
    ⟨Nat.sub_add_cancel fewer, rfl, copies⟩⟩

namespace Visits

variable {skipDownload : Bool} {s s' : MemoryStore × τ} {x : Submission} {v : SyncSummary}

/-! ## What is computed -/

/-- Syncing the attachments of a submission is a visit. -/
theorem syncAttachments_eq (h : Visits false s x v s')
    (named : ∀ a ∈ x.attachments, a.storagePath ≠ "") : syncAttachments s x = (.ok v, s') := by
  have run := h.copies.copyAttachments_eq fun a mem => named a (MemoryStore.lacking_subset mem)
  have present : v.present = x.attachments.length - v.missing := by
    have total := h.total
    omega
  simp only [syncAttachments, missingAttachments, missingAmong_eq]
  refine (run _).trans ?_
  simp only [Nat.zero_add, ← h.missing, ← present]

/-- A step of the loop over stored submissions is a visit. -/
theorem syncNext_eq (h : Visits skipDownload s x v s')
    (named : ∀ a ∈ x.attachments, a.storagePath ≠ "") (summary : StoreSyncSummary) :
    syncNext skipDownload s summary x = (.ok (summary.plus 0 0 [v]), s') := by
  have copies := h.copies
  have missing := h.missing
  have named : ∀ a ∈ s.1.lacking x.attachments, a.storagePath ≠ "" :=
    fun a mem => named a (MemoryStore.lacking_subset mem)
  simp only [syncNext, missingAttachments, missingAmong_eq]
  cases lacking : s.1.lacking x.attachments with
  | nil =>
    -- The loop does not copy here, and copying nothing comes to the same.
    rw [lacking, ite_self] at copies
    rw [lacking, List.length_nil] at missing
    obtain ⟨rfl, copied, failed⟩ := copies.nil_inv
    simp [StoreSyncSummary.plus, missing, copied, failed]
  | cons a rest =>
    rw [lacking] at copies named missing
    have some : 0 < v.missing := missing ▸ Nat.succ_pos rest.length
    cases skipDownload with
    | true =>
      obtain ⟨rfl, copied, failed⟩ := copies.nil_inv
      simp [StoreSyncSummary.plus, some, ← missing, copied, failed]
    | false =>
      have run : Copies s (a :: rest) v.copied v.failed s' := copies
      simp [run.copyAttachments_eq named, StoreSyncSummary.plus, some, ← missing]

/-! ## What becomes of the store and the source -/

theorem keptIn (h : Visits skipDownload s x v s') : s.1.KeptIn s'.1 := by
  refine h.copies.keptIn (fun a mem => ?_) (.refl s.1)
  cases skipDownload with
  | true => cases mem
  | false => exact (MemoryStore.mem_lacking_iff.mp mem).2

theorem steady (h : Visits skipDownload s x v s') {answer : String → Option Bytes}
    (steady : Steady s.2 answer) : Steady s'.2 answer :=
  h.copies.steady steady

/-- Only storage paths of the submission are written. -/
theorem get?_of_ne (h : Visits skipDownload s x v s') {key : String}
    (other : ∀ a ∈ x.attachments, a.storagePath ≠ key) :
    s'.1.objects.get? key = s.1.objects.get? key := by
  refine h.copies.get?_of_ne fun a mem => ?_
  cases skipDownload with
  | true => cases mem
  | false => exact other a (MemoryStore.lacking_subset mem)

theorem of_skipDownload (h : Visits true s x v s') : s' = s ∧ v.copied = 0 ∧ v.failed = 0 :=
  h.copies.nil_inv

/-- Every missing attachment is copied or its download fails. -/
theorem settled (h : Visits false s x v s') : v.copied + v.failed = v.missing := by
  rw [h.missing]
  exact h.copies.length

/-- A visit asks for just what is lacking, in order. -/
theorem source_eq (h : Visits false s x v s') :
    s'.2 = askAll s.2 ((s.1.lacking x.attachments).map Attachment.downloadUrl) :=
  h.copies.source_eq

theorem lacking_le_failed (h : Visits false s x v s') :
    (s'.1.lacking x.attachments).length ≤ v.failed := by
  rw [← MemoryStore.lacking_lacking h.keptIn]
  exact h.copies.lacking_le_failed

/-- What is still lacking after a visit is not served by the source. -/
theorem unserved (h : Visits false s x v s') {answer : String → Option Bytes}
    (steady : Steady s.2 answer) :
    ∀ a ∈ s'.1.lacking x.attachments, answer a.downloadUrl = none := by
  rw [← MemoryStore.lacking_lacking h.keptIn]
  exact fun a mem => h.copies.unserved steady mem

/-- Where nothing that is lacking is served, the store stays as it is. -/
theorem of_unserved (h : Visits false s x v s') {answer : String → Option Bytes}
    (steady : Steady s.2 answer)
    (unserved : ∀ a ∈ s.1.lacking x.attachments, answer a.downloadUrl = none) :
    s'.1 = s.1 ∧ v.copied = 0 :=
  h.copies.of_unserved steady unserved

end Visits

end SurveyDispatch
