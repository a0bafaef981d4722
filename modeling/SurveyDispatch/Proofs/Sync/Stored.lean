import SurveyDispatch.Proofs.Sync.Visit
import SurveyDispatch.Proofs.Submission.Attachments
import SurveyDispatch.Proofs.Batch.Accounting

/-!
# What a sync stores

After a sync with a steady source the store holds what it held before.  Under any other key it holds
the last bytes that are served for an attachment with this storage path (`Visits.get?_eq`).

So an attachment has its own bytes if no other field of the submission has the same storage path.
If two fields do, the one that comes later in the record overwrites the other one, although both are
counted as copied.  `Submission.stored_attachments` states both, and `stored_attachments_twins`
shows two such fields.
-/

namespace SurveyDispatch

variable {τ : Type} [AttachmentSource τ]

section

variable {answer : String → Option Bytes} {as : List Attachment} {a : Attachment}
  {path : String} {bytes : Bytes}

/-- Attachments with one storage path and one URL are served the same bytes. -/
theorem getLast?_servedAt (mem : a ∈ as) (served : answer a.downloadUrl = some bytes)
    (alike : ∀ b ∈ as, b.storagePath = a.storagePath → b.downloadUrl = a.downloadUrl) :
    (servedAt answer as a.storagePath).getLast? = some bytes := by
  have found : bytes ∈ servedAt answer as a.storagePath :=
    mem_servedAt_iff.mpr ⟨a, mem, rfl, served⟩
  cases last : (servedAt answer as a.storagePath).getLast? with
  | none =>
    rw [List.getLast?_eq_none_iff.mp last] at found
    cases found
  | some other =>
    obtain ⟨b, mem', same, served'⟩ := mem_servedAt_iff.mp (List.mem_of_getLast? last)
    rw [alike b mem' same, served] at served'
    exact served'.symm

/-- Nothing is lost by asking only for what is lacking, if the path was free. -/
theorem servedAt_lacking {store : MemoryStore} (absent : store.objects.contains path = false) :
    servedAt answer (store.lacking as) path = servedAt answer as path := by
  rw [servedAt, servedAt, MemoryStore.lacking, List.filter_filter]
  refine congrArg (List.filterMap _) (List.filter_congr fun a _ => ?_)
  by_cases same : a.storagePath = path
  · subst same
    simp [absent]
  · simp [same]

end

/-- What a store holds after a visit: its own objects, and for other keys the last bytes served. -/
theorem Visits.get?_eq {s s' : MemoryStore × τ} {x : Submission} {v : SyncSummary}
    (h : Visits false s x v s') {answer : String → Option Bytes} (steady : Steady s.2 answer)
    (key : String) :
    s'.1.objects.get? key =
      (s.1.objects.get? key).or (servedAt answer x.attachments key).getLast? := by
  cases held : s.1.objects.contains key with
  | true =>
    obtain ⟨bytes, found⟩ := Dictionary.contains_eq_true_iff.mp held
    rw [h.keptIn.get?_eq held, found, Option.some_or]
  | false =>
    have copied := h.copies.get?_eq steady key
    rw [Dictionary.contains_eq_false_iff.mp held, Option.or_none] at copied
    rw [Dictionary.contains_eq_false_iff.mp held, Option.none_or, ← servedAt_lacking held]
    exact copied

namespace Submission

/-- A sync always ends well.  An attachment that was missing and is served has the bytes that are
served last for its storage path, and these are its own ones if no other field has this path. -/
theorem stored_attachments {settings : SubmissionSettings} {record : Document} {x : Submission}
    (read : ofRecord settings record = .ok x) (store : MemoryStore) {source : τ}
    {answer : String → Option Bytes} (steady : Steady source answer) :
    ∃ summary after, syncAttachments (store, source) x = (.ok summary, after) ∧
      ∀ a ∈ x.attachments, store.objects.contains a.storagePath = false →
        ∀ bytes, answer a.downloadUrl = some bytes →
          after.1.objects.get? a.storagePath =
            (servedAt answer x.attachments a.storagePath).getLast? ∧
          ((∀ b ∈ x.attachments, b.storagePath = a.storagePath → b.field = a.field) →
            after.1.objects.get? a.storagePath = some bytes) := by
  obtain ⟨v, after, visit⟩ := exists_visits false (store, source) x
  refine ⟨v, after, visit.syncAttachments_eq (storagePath_ne_empty read), ?_⟩
  intro a mem absent bytes served
  have stored : after.1.objects.get? a.storagePath =
      (servedAt answer x.attachments a.storagePath).getLast? := by
    rw [visit.get?_eq steady, Dictionary.contains_eq_false_iff.mp absent, Option.none_or]
  refine ⟨stored, fun alone => ?_⟩
  rw [stored]
  refine getLast?_servedAt mem served fun b mem' same => ?_
  exact (downloadUrl_eq_iff_field_eq read mem' mem same).mpr (alone b mem' same)

/-! ## Two fields with one storage path -/

/-- A submission whose field `front` names `door_left.png`, and `front_door` names `left.png`.  A
third field shares its storage path with none of them. -/
def twins : Submission where
  record := .record [("p", .text "P"), ("s", .text "S"), ("f", .text "F"),
    ("a", .record [("page", .record [("front", .text "door_left.png"),
      ("front_door", .text "left.png"), ("roof", .text "top.png")])])]
  identity := ⟨"P", "S", "F"⟩
  attachments :=
    [⟨"page", "front", "attachments/P/F/S/front_door_left.png",
      "https://forms.example.com/attachments/P-Sdoor_left.png"⟩,
     ⟨"page", "front_door", "attachments/P/F/S/front_door_left.png",
      "https://forms.example.com/attachments/P-Sleft.png"⟩,
     ⟨"page", "roof", "attachments/P/F/S/roof_top.png",
      "https://forms.example.com/attachments/P-Stop.png"⟩]

/-- A source that serves one byte for each of the three images. -/
def twinImages : MemorySource :=
  .ofList [("https://forms.example.com/attachments/P-Sdoor_left.png", [1]),
    ("https://forms.example.com/attachments/P-Sleft.png", [2]),
    ("https://forms.example.com/attachments/P-Stop.png", [3])]

theorem stored_attachments_twins :
    ∃ summary after, syncAttachments (MemoryStore.ofList [], twinImages) twins =
        (.ok summary, after) ∧
      (∃ a ∈ twins.attachments, twinImages.files.get? a.downloadUrl = some [1] ∧
        after.1.objects.get? a.storagePath = some [2]) ∧
      (∃ a ∈ twins.attachments, twinImages.files.get? a.downloadUrl = some [3] ∧
        after.1.objects.get? a.storagePath = some [3]) := by
  have read : ofRecord .small twins.record = .ok twins := by rfl
  obtain ⟨summary, after, ran, stored⟩ :=
    stored_attachments read (MemoryStore.ofList []) twinImages.steady
  refine ⟨summary, after, ran, ?overwritten, ?alone⟩
  case overwritten =>
    have front := stored _ List.mem_cons_self (by decide +kernel) [1] (by decide +kernel)
    refine ⟨_, List.mem_cons_self, by decide +kernel, ?_⟩
    rw [front.1]
    decide +kernel
  case alone =>
    have third : twins.attachments[2] ∈ twins.attachments := List.getElem_mem _
    have roof := stored _ third (by decide +kernel) [3] (by decide +kernel)
    exact ⟨_, third, by decide +kernel, roof.2 (by decide +kernel)⟩

end Submission

end SurveyDispatch
