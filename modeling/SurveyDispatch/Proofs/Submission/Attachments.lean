import SurveyDispatch.Proofs.Submission.Compiled

/-!
# Names and places of attachments

The storage path of an attachment ends in its field and its file name with an underscore between
them.  Its download URL ends in the file name alone.  Both start with something that is the same for
all attachments of a submission.

A storage path does not say where the field ends, so two fields can have one storage path.  Then
their URLs differ (`Submission.downloadUrl_eq_iff_field_eq`).
-/

namespace SurveyDispatch

variable {s : SubmissionSettings} {i : Identity} {page page' field field' file file' : String}

namespace Attachment

theorem storagePath_ofField :
    (ofField s i page field file).storagePath =
      i.storageFront s ++ "/" ++ (field ++ "_" ++ file) := by
  simp only [ofField, ToString.toString, String.append_assoc]

theorem downloadUrl_ofField :
    (ofField s i page field file).downloadUrl = i.downloadFront s ++ file := by
  simp only [ofField, ToString.toString]

theorem storagePath_ofField_ne_empty : (ofField s i page field file).storagePath ≠ "" := by
  rw [storagePath_ofField]
  intro empty
  have chars := congrArg String.toList empty
  simp at chars

/-- Two fields share a storage path if their names and files run together to one text. -/
theorem storagePath_ofField_eq_iff :
    (ofField s i page field file).storagePath = (ofField s i page' field' file').storagePath ↔
      field ++ "_" ++ file = field' ++ "_" ++ file' := by
  rw [storagePath_ofField, storagePath_ofField, String.append_right_inj]

/-- Two fields of a submission share a download URL if they name one file. -/
theorem downloadUrl_ofField_eq_iff :
    (ofField s i page field file).downloadUrl = (ofField s i page' field' file').downloadUrl ↔
      file = file' := by
  rw [downloadUrl_ofField, downloadUrl_ofField, String.append_right_inj]

end Attachment

namespace Submission

variable {record : Document} {x : Submission} {a b : Attachment}

theorem exists_ofField (h : ofRecord s record = .ok x) (mem : a ∈ x.attachments) :
    ∃ page field file, a = Attachment.ofField s x.identity page field file := by
  obtain ⟨-, -, pages, -, attachments⟩ := ofRecord_eq_ok h
  rw [attachments] at mem
  obtain ⟨p, -, mem⟩ := List.mem_flatMap.mp mem
  unfold attachmentsOf at mem
  split at mem
  · obtain ⟨f, -, found⟩ := List.mem_filterMap.mp mem
    unfold attachmentOf? at found
    split at found
    · split at found
      · cases found
        exact ⟨_, _, _, rfl⟩
      · cases found
    · cases found
  · cases mem

theorem storagePath_ne_empty (h : ofRecord s record = .ok x) :
    ∀ a ∈ x.attachments, a.storagePath ≠ "" := by
  intro a mem
  obtain ⟨page, field, file, rfl⟩ := exists_ofField h mem
  exact Attachment.storagePath_ofField_ne_empty

/-- Attachments with one storage path have one URL exactly if they are of one field. -/
theorem downloadUrl_eq_iff_field_eq (h : ofRecord s record = .ok x) (ha : a ∈ x.attachments)
    (hb : b ∈ x.attachments) (same : a.storagePath = b.storagePath) :
    a.downloadUrl = b.downloadUrl ↔ a.field = b.field := by
  obtain ⟨page, field, file, rfl⟩ := exists_ofField h ha
  obtain ⟨page', field', file', rfl⟩ := exists_ofField h hb
  rw [Attachment.storagePath_ofField_eq_iff] at same
  rw [Attachment.downloadUrl_ofField_eq_iff]
  constructor
  · rintro rfl
    rw [String.append_left_inj, String.append_left_inj] at same
    exact same
  · intro eq
    have eq : field = field' := eq
    subst eq
    exact (String.append_right_inj _).mp same

end Submission

end SurveyDispatch
