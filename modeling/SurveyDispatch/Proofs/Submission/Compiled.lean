import Mathlib.Data.List.Basic
import SurveyDispatch.Proofs.Document.Paths
import SurveyDispatch.Submission.Basic

/-!
# Compiled records

The compiled record is made by putting public URLs into a copy one attachment after the other.
`Submission.compiled_eq` says what comes out: the answers are compiled page by page and field by
field, and everything else stays.  A field is compiled by itself (`Submission.compileField`), so no
attachment gets in the way of another one.  This needs distinct names of pages and of the fields of
a page.

Only texts change.  So a record and its compiled record have one skeleton.
-/

namespace SurveyDispatch

namespace Document

/-! ## Changes of several fields

Each entry comes with changes of its own value.  Doing all changes one after the other, each by the
name of its entry, changes every entry by its own changes. -/

section

variable {α : Type} (key : α → String) (change : α → Document → Document)

/-- Changes of the first entry. -/
theorem foldl_modifyField_head {name : String} {changes : List α}
    (h : ∀ a ∈ changes, key a = name) (v : Document) (rest : List (String × Document)) :
    changes.foldl (fun es a => modifyField (key a) (change a) es) ((name, v) :: rest) =
      (name, changes.foldl (fun v a => change a v) v) :: rest := by
  induction changes generalizing v with
  | nil => rfl
  | cons a as ih =>
    obtain ⟨head, tail⟩ := List.forall_mem_cons.mp h
    rw [List.foldl_cons, modifyField, if_pos head.symm, ih tail]
    rfl

/-- Changes of other entries than the first. -/
theorem foldl_modifyField_tail {name : String} {changes : List α}
    (h : ∀ a ∈ changes, key a ≠ name) (v : Document) (rest : List (String × Document)) :
    changes.foldl (fun es a => modifyField (key a) (change a) es) ((name, v) :: rest) =
      (name, v) :: changes.foldl (fun es a => modifyField (key a) (change a) es) rest := by
  induction changes generalizing rest with
  | nil => rfl
  | cons a as ih =>
    obtain ⟨head, tail⟩ := List.forall_mem_cons.mp h
    rw [List.foldl_cons, modifyField, if_neg (Ne.symm head), ih tail]
    rfl

theorem foldl_modifyField_flatMap {changes : String × Document → List α}
    {entries : List (String × Document)} (h : ∀ e ∈ entries, ∀ a ∈ changes e, key a = e.1)
    (nodup : (entries.map Prod.fst).Nodup) :
    (entries.flatMap changes).foldl (fun es a => modifyField (key a) (change a) es) entries =
      entries.map fun e => (e.1, (changes e).foldl (fun v a => change a v) e.2) := by
  induction entries with
  | nil => rfl
  | cons e rest ih =>
    obtain ⟨name, v⟩ := e
    obtain ⟨head, tail⟩ := List.forall_mem_cons.mp h
    obtain ⟨fresh, nodup⟩ := List.nodup_cons.mp nodup
    -- The changes of the entries behind go by other names than the first one.
    have others : ∀ a ∈ rest.flatMap changes, key a ≠ name := by
      intro a mem eq
      obtain ⟨e, mem, mem'⟩ := List.mem_flatMap.mp mem
      exact fresh (List.mem_map.mpr ⟨e, mem, (tail e mem a mem').symm.trans eq⟩)
    rw [List.flatMap_cons, List.foldl_append, foldl_modifyField_head key change head,
      foldl_modifyField_tail key change others, ih tail nodup]
    rfl

end

end Document

namespace Submission

open Document

/-! ## Compiling by structure -/

/-- A compiled field: the public URL in the place of the name of an attachment. -/
def compileField (s : SubmissionSettings) (i : Identity) (page field : String) :
    Document → Document
  | .text file =>
    if s.isAttachment file then .text ((Attachment.ofField s i page field file).publicUrl s)
    else .text file
  | d => d

/-- A compiled page. -/
def compilePage (s : SubmissionSettings) (i : Identity) (page : String) : Document → Document
  | .record fields => .record (fields.map fun f => (f.1, compileField s i page f.1 f.2))
  | d => d

/-- Compiled pages. -/
def compilePages (s : SubmissionSettings) (i : Identity) (pages : List (String × Document)) :
    List (String × Document) :=
  pages.map fun p => (p.1, compilePage s i p.1 p.2)

/-- Compiled answers. -/
def compileAnswers (s : SubmissionSettings) (i : Identity) : Document → Document
  | .record pages => .record (compilePages s i pages)
  | d => d

/-- The attachment that a field is, if it is one. -/
def attachmentOf? (s : SubmissionSettings) (i : Identity) (page : String) :
    String × Document → Option Attachment
  | (field, .text file) =>
    if s.isAttachment file then some (.ofField s i page field file) else none
  | _ => none

variable {s : SubmissionSettings} {i : Identity}

theorem ofFields_eq_filterMap (page : String) (fields : List (String × Document)) :
    Attachment.ofFields s i page fields = fields.filterMap (attachmentOf? s i page) := by
  unfold Attachment.ofFields
  refine congrArg (fun f => fields.filterMap f) (funext fun f => ?_)
  obtain ⟨field, v⟩ := f
  cases v <;> rfl

/-- The attachments of a page of any kind. -/
def attachmentsOf (s : SubmissionSettings) (i : Identity) : String × Document → List Attachment
  | (page, .record fields) => fields.filterMap (attachmentOf? s i page)
  | _ => []

theorem ofPages_eq_flatMap (pages : List (String × Document)) :
    Attachment.ofPages s i pages = pages.flatMap (attachmentsOf s i) := by
  unfold Attachment.ofPages
  refine congrArg (fun f => pages.flatMap f) (funext fun p => ?_)
  obtain ⟨page, v⟩ := p
  cases v with
  | record fields => exact ofFields_eq_filterMap page fields
  | null => rfl
  | bool _ => rfl
  | number _ => rfl
  | text _ => rfl
  | list _ => rfl

/-- An attachment of a field has its page and its field as names. -/
theorem attachmentOf?_eq_some {page : String} {f : String × Document} {a : Attachment}
    (h : attachmentOf? s i page f = some a) : a.page = page ∧ a.field = f.1 := by
  unfold attachmentOf? at h
  split at h
  · split at h
    · cases h
      exact ⟨rfl, rfl⟩
    · cases h
  · cases h

theorem page_of_mem_attachmentsOf {p : String × Document} {a : Attachment}
    (h : a ∈ attachmentsOf s i p) : a.page = p.1 := by
  unfold attachmentsOf at h
  split at h
  · obtain ⟨f, -, hf⟩ := List.mem_filterMap.mp h
    exact (attachmentOf?_eq_some hf).1
  · cases h

/-- Puts the public URL of an attachment into the field. -/
def putUrl (s : SubmissionSettings) (a : Attachment) : Document → Document :=
  modifyAt (fun _ => .text (a.publicUrl s)) [a.field]

theorem foldl_modifyField_record {α : Type} (key : α → String) (change : α → Document → Document)
    (changes : List α) (fields : List (String × Document)) :
    changes.foldl (fun d a => modifyAt (change a) [key a] d) (.record fields) =
      .record (changes.foldl (fun es a => modifyField (key a) (change a) es) fields) := by
  induction changes generalizing fields with
  | nil => rfl
  | cons a as ih => exact ih _

/-- Putting the URLs into a page compiles it. -/
theorem foldl_putUrl (p : String × Document)
    (distinct : ∀ fields, p.2 = .record fields → (fields.map Prod.fst).Nodup) :
    (attachmentsOf s i p).foldl (fun d a => putUrl s a d) p.2 = compilePage s i p.1 p.2 := by
  obtain ⟨page, v⟩ := p
  cases v with
  | null => rfl
  | bool _ => rfl
  | number _ => rfl
  | text _ => rfl
  | list _ => rfl
  | record fields =>
    simp only [attachmentsOf, putUrl, compilePage]
    rw [foldl_modifyField_record, List.filterMap_eq_flatMap_toList, foldl_modifyField_flatMap]
    · refine congrArg Document.record (List.map_congr_left fun f _ => ?_)
      obtain ⟨field, v⟩ := f
      cases v with
      | text file =>
        simp only [attachmentOf?, compileField]
        split <;> rfl
      | null => rfl
      | bool _ => rfl
      | number _ => rfl
      | list _ => rfl
      | record _ => rfl
    · intro f _ a mem
      exact (attachmentOf?_eq_some (Option.mem_toList.mp mem)).2
    · exact distinct fields rfl

/-- Putting all URLs into the answers compiles them. -/
theorem foldl_answers {pages : List (String × Document)}
    (distinct : (Document.record pages).Distinct) :
    (pages.flatMap (attachmentsOf s i)).foldl (fun d a => modifyAt (putUrl s a) [a.page] d)
        (.record pages) = compileAnswers s i (.record pages) := by
  obtain ⟨nodup, below⟩ := distinct_record_iff.mp distinct
  rw [foldl_modifyField_record, foldl_modifyField_flatMap]
  · refine congrArg Document.record (List.map_congr_left fun p mem => ?_)
    rw [foldl_putUrl]
    intro fields eq
    exact (distinct_record_iff.mp (eq ▸ below p mem)).1
  · exact fun p _ a mem => page_of_mem_attachmentsOf mem
  · exact nodup

/-! ## The compiled record -/

/-- A submission has the identity and the attachments of its record. -/
theorem ofRecord_eq_ok {record : Document} {x : Submission} (h : ofRecord s record = .ok x) :
    x.record = record ∧ Identity.ofRecord s record = .ok x.identity ∧
      ∃ pages, record.lookup s.answersPath = some (.record pages) ∧
        x.attachments = pages.flatMap (attachmentsOf s x.identity) := by
  unfold ofRecord at h
  cases hi : Identity.ofRecord s record with
  | error fault =>
    rw [hi] at h
    cases h
  | ok identity =>
    cases hp : pages s record with
    | error fault =>
      rw [hi, hp] at h
      cases h
    | ok found =>
      rw [hi, hp] at h
      cases h
      refine ⟨rfl, rfl, found, ?_, ofPages_eq_flatMap found⟩
      unfold pages at hp
      split at hp
      · cases hp
      · cases hp
      next answers =>
        cases hp
        exact answers
      · cases hp

theorem ofBytes_eq_ok {bytes : Bytes} {x : Submission}
    (h : ofBytes s bytes = .ok x) :
    Document.read? bytes = some x.record ∧ ofRecord s x.record = .ok x := by
  unfold ofBytes at h
  split at h
  next record read =>
    have same := (ofRecord_eq_ok h).1
    exact ⟨same ▸ read, same ▸ h⟩
  · cases h

/-- The compiled record is the record with compiled answers. -/
theorem compiled_eq {record : Document} {x : Submission} (h : ofRecord s record = .ok x)
    (distinct : record.Distinct) :
    x.compiled s = modifyAt (compileAnswers s x.identity) (segments s.answersPath) record := by
  obtain ⟨rfl, -, pages, answers, attachments⟩ := ofRecord_eq_ok h
  have step : ∀ a : Attachment, replaceAt (.text (a.publicUrl s)) (a.segments s) =
      modifyAt (modifyAt (putUrl s a) [a.page]) (segments s.answersPath) := by
    intro a
    rw [replaceAt_eq_modifyAt, Attachment.segments, modifyAt_append]
    rfl
  unfold compiled
  simp only [step]
  rw [foldl_modifyAt (fun a => modifyAt (putUrl s a) [a.page])]
  refine modifyAt_congr (fun v found => ?_)
  have same : v = .record pages := Option.some.inj (found.symm.trans answers)
  rw [same, attachments]
  exact foldl_answers (same ▸ distinct.lookupFrom found)

/-! ## Only texts change -/

theorem skeleton_compileField (page field : String) (d : Document) :
    (compileField s i page field d).skeleton = d.skeleton := by
  cases d with
  | text file =>
    rw [compileField]
    split
    · rw [skeleton_text, skeleton_text]
    · rfl
  | null => rfl
  | bool _ => rfl
  | number _ => rfl
  | list _ => rfl
  | record _ => rfl

theorem skeleton_compilePage (page : String) (d : Document) :
    (compilePage s i page d).skeleton = d.skeleton := by
  cases d with
  | record fields =>
    rw [compilePage, skeleton_record, skeleton_record, List.map_map]
    refine congrArg Document.record (List.map_congr_left fun f _ => ?_)
    exact congrArg (Prod.mk f.1) (skeleton_compileField page f.1 f.2)
  | null => rfl
  | bool _ => rfl
  | number _ => rfl
  | text _ => rfl
  | list _ => rfl

/-- Compiling the answers only changes texts. -/
theorem skeleton_compileAnswers (d : Document) :
    (compileAnswers s i d).skeleton = d.skeleton := by
  cases d with
  | record pages =>
    rw [compileAnswers, compilePages, skeleton_record, skeleton_record, List.map_map]
    refine congrArg Document.record (List.map_congr_left fun p _ => ?_)
    exact congrArg (Prod.mk p.1) (skeleton_compilePage p.1 p.2)
  | null => rfl
  | bool _ => rfl
  | number _ => rfl
  | text _ => rfl
  | list _ => rfl

/-- A compiled record differs from the record in texts only. -/
theorem skeleton_compiled {record : Document} {x : Submission} (h : ofRecord s record = .ok x)
    (distinct : record.Distinct) : (x.compiled s).skeleton = record.skeleton := by
  rw [compiled_eq h distinct]
  exact skeleton_modifyAt skeleton_compileAnswers _ _

/-- A compiled record nests as deep as the record. -/
theorem depth_compiled {record : Document} {x : Submission} (h : ofRecord s record = .ok x)
    (distinct : record.Distinct) : (x.compiled s).depth = record.depth := by
  rw [← depth_skeleton, skeleton_compiled h distinct, depth_skeleton]

end Submission

end SurveyDispatch
