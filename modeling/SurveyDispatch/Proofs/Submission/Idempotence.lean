import SurveyDispatch.Proofs.Submission.Compiled
import SurveyDispatch.Proofs.Text.Ends

/-!
# Compiling twice

A compiled record is a record of a submission again, and compiling it a second time changes
nothing.  This needs that no public URL names an attachment.  All URLs have the same end, which has
neither a slash nor a dot in it.  So the extension of a URL has that end too
(`SubmissionSettings.extension?_append`), and it is enough that no extension on the list has it.

The identity may change if one of its paths leads into the answers.  It is still there, because
compiling keeps the skeleton.
-/

namespace SurveyDispatch

/-! ## Extensions -/

namespace SubmissionSettings

/-- An end without slashes and dots belongs to the extension. -/
theorem extension?_append {front tail : List Char} (slash : '/' ∉ tail) (dot : '.' ∉ tail) :
    extension? (front ++ tail) = (extension? front).map (· ++ tail) := by
  unfold extension?
  rw [Text.afterLast_append slash, Text.dropWhile_append_of_not_mem dot]
  simp only [List.mem_append, dot, or_false]
  split
  · rw [Text.afterLast_append dot, Option.map_some]
  · rfl

theorem withoutDot_suffix (entry : List Char) : withoutDot entry <:+ entry := by
  unfold withoutDot
  split
  · exact List.suffix_cons _ _
  · exact List.suffix_refl _

/-- A listed extension is the end of an entry of the list, up to the case of letters. -/
theorem exists_suffix_of_isListed {s : SubmissionSettings} {extension : List Char}
    (h : s.isListed extension = true) :
    ∃ entry ∈ s.imageExtensions,
      extension.map Char.toLower <:+ entry.toList.map Char.toLower := by
  obtain ⟨entry, mem, same⟩ := List.any_eq_true.mp h
  refine ⟨entry, mem, ?_⟩
  have lower : (withoutDot entry.toList).map Char.toLower = extension.map Char.toLower := by
    dsimp only at same
    split at same
    · exact beq_iff_eq.mp same
    · exact congrArg (List.map Char.toLower) (beq_iff_eq.mp same)
  rw [← lower]
  exact (withoutDot_suffix entry.toList).map Char.toLower

variable {s : SubmissionSettings}

/-- A public URL does not name an attachment. -/
theorem isAttachment_publicUrl (a : Attachment)
    (h : ∀ entry ∈ s.imageExtensions,
      ¬ "?alt=media".toList <:+ entry.toList.map Char.toLower) :
    s.isAttachment (a.publicUrl s) = false := by
  unfold isAttachment Attachment.publicUrl
  rw [String.toList_ofList, extension?_append (by decide) (by decide)]
  generalize extension? _ = extension
  cases extension with
  | none => rfl
  | some e =>
    by_contra listed
    obtain ⟨entry, mem, suffix⟩ := exists_suffix_of_isListed (Bool.not_eq_false _ ▸ listed)
    rw [List.map_append] at suffix
    exact h entry mem ((List.suffix_append _ _).trans suffix)

end SubmissionSettings

/-! ## Identities -/

/-- Whether a value is a part of an identity. -/
def Document.Identifies : Document → Prop
  | .text _ | .number _ => True
  | _ => False

theorem Document.identifies_skeleton {d : Document} : d.skeleton.Identifies ↔ d.Identifies := by
  cases d <;> exact Iff.rfl

namespace Identity

theorem exists_part_iff {record : Document} {name path : String} :
    (∃ a, part record name path = .ok a) ↔
      ∃ v, record.lookup path = some v ∧ v.Identifies := by
  unfold part
  cases record.lookup path with
  | none => simp
  | some v => cases v <;> simp [Document.Identifies]

/-- A document with the skeleton of another one has the parts that the other one has.  Their texts
are its own. -/
theorem part_of_skeleton {record record' : Document} {name path a : String}
    (same : record'.skeleton = record.skeleton) (h : part record name path = .ok a) :
    ∃ b, part record' name path = .ok b := by
  obtain ⟨v, found, identifies⟩ := exists_part_iff.mp ⟨a, h⟩
  have both : (record'.lookup path).map Document.skeleton = some v.skeleton := by
    unfold Document.lookup at found ⊢
    rw [← Document.lookupFrom_skeleton, same, Document.lookupFrom_skeleton, found, Option.map_some]
  obtain ⟨v', found', eq⟩ := Option.map_eq_some_iff.mp both
  refine exists_part_iff.mpr ⟨v', found', ?_⟩
  exact Document.identifies_skeleton.mp (eq ▸ Document.identifies_skeleton.mpr identifies)

theorem ofRecord_eq_ok_iff {s : SubmissionSettings} {record : Document} {i : Identity} :
    ofRecord s record = .ok i ↔
      part record "provider id" s.providerIdPath = .ok i.providerId ∧
      part record "submission id" s.submissionIdPath = .ok i.submissionId ∧
      part record "form code" s.formCodePath = .ok i.formCode := by
  unfold ofRecord
  constructor
  · intro h
    cases provider : part record "provider id" s.providerIdPath with
    | error _ =>
      rw [provider] at h
      cases h
    | ok a =>
      cases submission : part record "submission id" s.submissionIdPath with
      | error _ =>
        rw [provider, submission] at h
        cases h
      | ok b =>
        cases code : part record "form code" s.formCodePath with
        | error _ =>
          rw [provider, submission, code] at h
          cases h
        | ok c =>
          rw [provider, submission, code] at h
          cases h
          exact ⟨rfl, rfl, rfl⟩
  · rintro ⟨provider, submission, code⟩
    rw [provider, submission, code]
    rfl

/-- A document with the skeleton of another one has an identity if the other one has. -/
theorem ofRecord_of_skeleton {s : SubmissionSettings} {record record' : Document} {i : Identity}
    (same : record'.skeleton = record.skeleton) (h : ofRecord s record = .ok i) :
    ∃ j, ofRecord s record' = .ok j := by
  obtain ⟨provider, submission, code⟩ := ofRecord_eq_ok_iff.mp h
  obtain ⟨a, provider⟩ := part_of_skeleton same provider
  obtain ⟨b, submission⟩ := part_of_skeleton same submission
  obtain ⟨c, code⟩ := part_of_skeleton same code
  exact ⟨⟨a, b, c⟩, ofRecord_eq_ok_iff.mpr ⟨provider, submission, code⟩⟩

end Identity

namespace Submission

variable {s : SubmissionSettings} {i j : Identity}

/-! ## Nothing is left to compile -/

section

variable (ends : ∀ entry ∈ s.imageExtensions,
  ¬ "?alt=media".toList <:+ entry.toList.map Char.toLower)

include ends

/-- A compiled field is no attachment any more. -/
theorem attachmentOf?_compileField (page field : String) (v : Document) :
    attachmentOf? s j page (field, compileField s i page field v) = none := by
  cases v with
  | null => rfl
  | bool _ => rfl
  | number _ => rfl
  | list _ => rfl
  | record _ => rfl
  | text file =>
    rw [compileField]
    split
    next =>
      rw [attachmentOf?, SubmissionSettings.isAttachment_publicUrl _ ends,
        if_neg Bool.false_ne_true]
    next other => rw [attachmentOf?, if_neg other]

theorem attachmentsOf_compilePage (page : String) (v : Document) :
    attachmentsOf s j (page, compilePage s i page v) = [] := by
  cases v with
  | null => rfl
  | bool _ => rfl
  | number _ => rfl
  | text _ => rfl
  | list _ => rfl
  | record fields =>
    rw [compilePage, attachmentsOf, List.filterMap_map]
    exact List.filterMap_eq_nil_iff.mpr fun f _ => attachmentOf?_compileField ends page f.1 f.2

theorem ofPages_compilePages (pages : List (String × Document)) :
    Attachment.ofPages s j (compilePages s i pages) = [] := by
  rw [ofPages_eq_flatMap, compilePages, List.flatMap_map]
  exact List.flatMap_eq_nil_iff.mpr fun p _ => attachmentsOf_compilePage ends p.1 p.2

end

/-- The answers of a compiled record are its compiled pages. -/
theorem lookup_compiled {record : Document} {x : Submission} (h : ofRecord s record = .ok x)
    (distinct : record.Distinct) :
    ∃ pages, (x.compiled s).lookup s.answersPath =
      some (.record (compilePages s x.identity pages)) := by
  obtain ⟨-, -, pages, answers, -⟩ := ofRecord_eq_ok h
  refine ⟨pages, ?_⟩
  unfold Document.lookup at answers ⊢
  rw [compiled_eq h distinct, Document.lookupFrom_modifyAt, answers]
  rfl

/-- A submission without attachments is its own compiled record. -/
theorem compiled_of_attachments_eq_nil {x : Submission} (h : x.attachments = []) :
    x.compiled s = x.record := by
  rw [compiled, h, List.foldl_nil]

/-- Compiling is idempotent: a compiled record is a record of a submission without attachments,
which is its own compiled record.  No extension may end like a public URL.  The names in a record
are distinct because a reader keeps one field of each name. -/
theorem compile_idempotent {record : Document} {x : Submission} (distinct : record.Distinct)
    (ends : ∀ entry ∈ s.imageExtensions,
      ¬ "?alt=media".toList <:+ entry.toList.map Char.toLower)
    (h : ofRecord s record = .ok x) :
    ∃ y, ofRecord s (x.compiled s) = .ok y ∧ y.attachments = [] ∧
      y.compiled s = x.compiled s := by
  obtain ⟨-, identity, -⟩ := ofRecord_eq_ok h
  obtain ⟨j, identity'⟩ := Identity.ofRecord_of_skeleton (skeleton_compiled h distinct) identity
  obtain ⟨pages', answers⟩ := lookup_compiled h distinct
  have found : pages s (x.compiled s) = .ok (compilePages s x.identity pages') := by
    rw [pages, answers]
  have none : Attachment.ofPages s j (compilePages s x.identity pages') = [] :=
    ofPages_compilePages ends pages'
  refine ⟨⟨x.compiled s, j, []⟩, ?_, rfl, compiled_of_attachments_eq_nil rfl⟩
  rw [ofRecord, identity', found, ← none]
  rfl

/-- A record with one attachment, which is a part of the identity too. -/
def photo : Document :=
  .record [("answers", .record [("front", .record [("door", .text "i.PNG")])])]

/-- Settings for this record. -/
def photoSettings : SubmissionSettings where
  providerIdPath := "answers/front/door"
  submissionIdPath := "answers/front/door"
  formCodePath := "answers/front/door"
  answersPath := "answers"
  caseInsensitiveExtensions := true

theorem compile_idempotent_photo :
    ∃ x, ofRecord photoSettings photo = .ok x ∧ x.attachments ≠ [] ∧
      ∃ y, ofRecord photoSettings (x.compiled photoSettings) = .ok y ∧ y.attachments = [] ∧
        y.compiled photoSettings = x.compiled photoSettings := by
  have distinct : photo.Distinct := by simp [photo, Document.Distinct, Document.DistinctFields]
  exact ⟨_, rfl, List.cons_ne_nil _ _, compile_idempotent distinct (by decide) rfl⟩

end Submission

end SurveyDispatch
