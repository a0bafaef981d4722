import Mathlib.Data.List.Nodup
import SurveyDispatch.Proofs.Document.Places
import SurveyDispatch.Proofs.Submission.Compiled

/-!
# The slots of a record

The slots of a record are the fields of its pages that name an image.  The attachments of a
submission are the slots in document order, and the compiled record is the record with a public URL
in each slot and nothing else changed (`Submission.Rewrites`).

Where the answers are is found out by following the path of the settings through records and lists.
From there on a slot is two steps down, to its page and to its field, whatever these are called.
-/

namespace SurveyDispatch.Submission

open Document

variable {s : SubmissionSettings} {i : Identity}

/-! ## Fields of pages -/

/-- A page with each of its fields.  A page that is not a record has none. -/
def namesOf : String × Document → List (String × String)
  | (page, .record fields) => fields.map fun f => (page, f.1)
  | _ => []

/-- The pages with their fields, in document order. -/
def fieldNames (pages : List (String × Document)) : List (String × String) :=
  pages.flatMap namesOf

/-- A page is a record, and a field of it is a text. -/
def HasText (pages : List (String × Document)) (page field file : String) : Prop :=
  ∃ fields, (page, .record fields) ∈ pages ∧ (field, .text file) ∈ fields

theorem attachmentOf?_eq_some_iff {page : String} {f : String × Document} {a : Attachment} :
    attachmentOf? s i page f = some a ↔
      ∃ file, f.2 = .text file ∧ s.isAttachment file = true ∧ a = .ofField s i page f.1 file := by
  obtain ⟨field, v⟩ := f
  cases v with
  | text file =>
    rw [attachmentOf?]
    constructor
    · intro found
      split at found
      next image =>
        cases found
        exact ⟨file, rfl, image, rfl⟩
      · cases found
    · rintro ⟨_, ⟨⟩, image, rfl⟩
      exact if_pos image
  | _ => simp [attachmentOf?]

/-- The attachments are the fields that name an image. -/
theorem mem_attachments_iff {pages : List (String × Document)} {a : Attachment} :
    a ∈ pages.flatMap (attachmentsOf s i) ↔
      ∃ page field file, HasText pages page field file ∧ s.isAttachment file = true ∧
        a = .ofField s i page field file := by
  rw [List.mem_flatMap]
  constructor
  · rintro ⟨⟨page, v⟩, mem, found⟩
    cases v with
    | record fields =>
      obtain ⟨⟨field, v⟩, mem', found⟩ := List.mem_filterMap.mp found
      obtain ⟨file, rfl, image, rfl⟩ := attachmentOf?_eq_some_iff.mp found
      exact ⟨page, field, file, ⟨fields, mem, mem'⟩, image, rfl⟩
    | _ => cases found
  · rintro ⟨page, field, file, ⟨fields, mem, mem'⟩, image, rfl⟩
    refine ⟨(page, .record fields), mem, List.mem_filterMap.mpr ⟨(field, .text file), mem', ?_⟩⟩
    exact attachmentOf?_eq_some_iff.mpr ⟨file, rfl, image, rfl⟩

/-- The attachments of a page are in the order of its fields. -/
theorem names_filterMap_sublist (page : String) (fields : List (String × Document)) :
    ((fields.filterMap (attachmentOf? s i page)).map fun a => (a.page, a.field)).Sublist
      (fields.map fun f => (page, f.1)) := by
  induction fields with
  | nil => exact .slnil
  | cons f rest ih =>
    rw [List.filterMap_cons]
    cases found : attachmentOf? s i page f with
    | none => exact .cons _ ih
    | some a =>
      obtain ⟨rfl, eq⟩ := attachmentOf?_eq_some found
      rw [List.map_cons, List.map_cons, eq]
      exact .cons_cons _ ih

/-- The attachments are in document order. -/
theorem names_attachments_sublist (pages : List (String × Document)) :
    ((pages.flatMap (attachmentsOf s i)).map fun a => (a.page, a.field)).Sublist
      (fieldNames pages) := by
  induction pages with
  | nil => exact .slnil
  | cons p rest ih =>
    rw [List.flatMap_cons, List.map_append, fieldNames, List.flatMap_cons]
    refine List.Sublist.append ?_ ih
    obtain ⟨page, v⟩ := p
    cases v with
    | record fields => exact names_filterMap_sublist page fields
    | _ => exact .slnil

theorem fst_of_mem_namesOf {p : String × Document} {name : String × String}
    (h : name ∈ namesOf p) : name.1 = p.1 := by
  unfold namesOf at h
  split at h
  · obtain ⟨f, -, rfl⟩ := List.mem_map.mp h
    rfl
  · cases h

/-- Every field is listed once. -/
theorem nodup_fieldNames {pages : List (String × Document)}
    (distinct : (Document.record pages).Distinct) : (fieldNames pages).Nodup := by
  obtain ⟨nodup, below⟩ := distinct_record_iff.mp distinct
  refine List.nodup_flatMap.mpr ⟨fun p mem => ?_, ?_⟩
  · obtain ⟨page, v⟩ := p
    cases v with
    | record fields =>
      have names := (distinct_record_iff.mp (below _ mem)).1
      have paired : namesOf (page, .record fields) = (fields.map Prod.fst).map (Prod.mk page) := by
        rw [List.map_map]
        rfl
      rw [paired]
      exact names.map fun _ _ eq => (Prod.mk.inj eq).2
    | _ => exact List.nodup_nil
  · refine (List.pairwise_map.mp nodup).imp fun ne name mem mem' => ne ?_
    exact (fst_of_mem_namesOf mem).symm.trans (fst_of_mem_namesOf mem')

/-! ## Compiling at places -/

variable {places : List Step → Prop}

theorem sameBut_compileField {page field : String} {v : Document}
    (h : ∀ file, v = .text file → s.isAttachment file = true → places []) :
    SameBut places v (compileField s i page field v) := by
  cases v with
  | text file =>
    rw [compileField]
    split
    next image =>
      intro place outside
      cases place with
      | nil => exact absurd (h file rfl image) outside
      | cons step rest => rw [at?_text_cons, at?_text_cons]
    · exact .refl places _
  | _ => exact .refl places _

theorem sameBut_compilePage {page : String} {v : Document}
    (h : ∀ fields field file, v = .record fields → (field, .text file) ∈ fields →
      s.isAttachment file = true → places [.field field]) :
    SameBut places v (compilePage s i page v) := by
  cases v with
  | record fields =>
    refine sameBut_record_map (fun f => compileField s i page f.1 f.2) fun f mem => ?_
    refine sameBut_compileField fun file eq image => ?_
    exact h fields f.1 file rfl (eq ▸ mem) image
  | _ => exact .refl places _

/-- Compiled answers are the answers outside of the slots. -/
theorem sameBut_compileAnswers {pages : List (String × Document)}
    (h : ∀ page field file, HasText pages page field file → s.isAttachment file = true →
      places [.field page, .field field]) :
    SameBut places (.record pages) (compileAnswers s i (.record pages)) := by
  refine sameBut_record_map (fun p => compilePage s i p.1 p.2) fun p mem => ?_
  refine sameBut_compilePage fun fields field file eq mem' image => ?_
  exact h p.1 field file ⟨fields, eq ▸ mem, mem'⟩ image

/-- A slot of compiled answers holds a public URL. -/
theorem at?_compileAnswers {pages : List (String × Document)}
    (distinct : (Document.record pages).Distinct) {page field file : String}
    (h : HasText pages page field file) (image : s.isAttachment file = true) :
    (compileAnswers s i (.record pages)).at? [.field page, .field field] =
      some (.text ((Attachment.ofField s i page field file).publicUrl s)) := by
  obtain ⟨fields, mem, mem'⟩ := h
  obtain ⟨nodup, below⟩ := distinct_record_iff.mp distinct
  have nodup' := (distinct_record_iff.mp (below _ mem)).1
  simp only [at?, compileAnswers, compilePages, below?, lookup_map,
    (lookup_eq_some_iff_mem nodup).mpr mem, Option.map_some, Option.bind_some, compilePage,
    (lookup_eq_some_iff_mem nodup').mpr mem', compileField, image, if_true]

/-! ## The compiled record -/

/-- The place of the field of an attachment, where the answers are at a place. -/
def slot (answers : List Step) (a : Attachment) : List Step :=
  answers ++ [.field a.page, .field a.field]

/-- A record with the public URLs of attachments in their slots and nothing else changed. -/
structure Rewrites (s : SubmissionSettings) (answers : List Step) (attachments : List Attachment)
    (record d : Document) : Prop where
  /-- Every slot holds the public URL. -/
  slots : ∀ a ∈ attachments, d.at? (slot answers a) = some (.text (a.publicUrl s))
  /-- Outside of the slots nothing is changed, neither a value nor a name nor an order. -/
  others : SameBut (fun place => ∃ a ∈ attachments, place = slot answers a) record d

/-- There is one such record. -/
theorem Rewrites.unique {answers : List Step} {attachments : List Attachment}
    {record d e : Document} (hd : Rewrites s answers attachments record d)
    (he : Rewrites s answers attachments record e) (distinct : d.Distinct)
    (distinct' : e.Distinct) : d = e := by
  refine eq_of_surfaces distinct distinct' fun place => ?_
  by_cases inside : ∃ a ∈ attachments, place = slot answers a
  · obtain ⟨a, mem, rfl⟩ := inside
    rw [hd.slots a mem, he.slots a mem]
  · exact (hd.others place inside).symm.trans (he.others place inside)

theorem distinct_compiled {record : Document} {x : Submission} (h : ofRecord s record = .ok x)
    (distinct : record.Distinct) : (x.compiled s).Distinct := by
  rw [← distinct_skeleton, skeleton_compiled h distinct, distinct_skeleton]
  exact distinct

/-- The attachments of a submission are the slots of its record in document order, and the compiled
record is the record that has their public URLs in the slots and is unchanged otherwise. -/
theorem compiled_rewrites_slots {record : Document} {x : Submission} (distinct : record.Distinct)
    (h : ofRecord s record = .ok x) :
    ∃ answers pages, Leads record (segments s.answersPath) answers (.record pages) ∧
      record.at? answers = some (.record pages) ∧
      (∀ a, a ∈ x.attachments ↔ ∃ page field file, HasText pages page field file ∧
        s.isAttachment file = true ∧ a = .ofField s x.identity page field file) ∧
      (x.attachments.map fun a => (a.page, a.field)).Sublist (fieldNames pages) ∧
      (x.attachments.map fun a => (a.page, a.field)).Nodup ∧
      Rewrites s answers x.attachments record (x.compiled s) ∧
      ∀ d, d.Distinct → Rewrites s answers x.attachments record d → d = x.compiled s := by
  obtain ⟨-, -, pages, found, attachments⟩ := ofRecord_eq_ok h
  obtain ⟨answers, leads⟩ := exists_leads found
  have below : (Document.record pages).Distinct := distinct.lookupFrom found
  have rewrites : Rewrites s answers x.attachments record (x.compiled s) := by
    rw [compiled_eq h distinct, attachments]
    constructor
    · intro a mem
      obtain ⟨page, field, file, text, image, rfl⟩ := mem_attachments_iff.mp mem
      rw [slot, at?_append, (leads_modifyAt leads).at?_eq]
      exact at?_compileAnswers below text image
    · refine sameBut_modifyAt leads (sameBut_compileAnswers fun page field file text image => ?_)
      exact ⟨_, mem_attachments_iff.mpr ⟨page, field, file, text, image, rfl⟩, rfl⟩
  rw [attachments] at rewrites ⊢
  refine ⟨answers, pages, leads, leads.at?_eq, fun a => mem_attachments_iff,
    names_attachments_sublist pages,
    (nodup_fieldNames below).sublist (names_attachments_sublist pages), rewrites,
    fun d distinct' other => ?_⟩
  exact other.unique rewrites distinct' (distinct_compiled h distinct)

/-- A record whose answers are an item of a list and whose names look like paths and indexes. -/
def oddlyNamed : Document :=
  .record [("id", .text "7"), ("forms", .list [.null, .record [
    ("a/b", .record [("", .text "x.png"), ("note", .text "png")]),
    ("loose.png", .text "y.png"),
    ("1", .record [("0", .text "z.jpg"), ("list", .list [.text "w.png"])])]])]

/-- Settings for this record. -/
def oddlyNamedSettings : SubmissionSettings where
  providerIdPath := "id"
  submissionIdPath := "id"
  formCodePath := "id"
  answersPath := "forms/+1"

theorem compiled_rewrites_slots_oddly_named :
    oddlyNamed.Distinct ∧ ∃ x, ofRecord oddlyNamedSettings oddlyNamed = .ok x ∧
      x.attachments.map (fun a => (a.page, a.field)) = [("a/b", ""), ("1", "0")] ∧
      ∃ answers pages, Leads oddlyNamed ["forms", "+1"] answers (.record pages) ∧
        Rewrites oddlyNamedSettings answers x.attachments oddlyNamed
          (x.compiled oddlyNamedSettings) := by
  have distinct : oddlyNamed.Distinct := by
    simp [oddlyNamed, Document.Distinct, Document.DistinctFields, Document.DistinctItems]
  obtain ⟨x, made, names⟩ : ∃ x, ofRecord oddlyNamedSettings oddlyNamed = .ok x ∧
      x.attachments.map (fun a => (a.page, a.field)) = [("a/b", ""), ("1", "0")] := ⟨_, rfl, rfl⟩
  obtain ⟨answers, pages, leads, -, -, -, -, rewrites, -⟩ := compiled_rewrites_slots distinct made
  exact ⟨distinct, x, made, names, answers, pages, leads, rewrites⟩

end SurveyDispatch.Submission
