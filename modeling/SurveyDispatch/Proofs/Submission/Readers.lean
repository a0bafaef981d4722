import SurveyDispatch.Proofs.Document.Resolution
import SurveyDispatch.Proofs.Submission.Idempotence

/-!
# Two readers of one path

Rules resolve paths and submissions look them up.  Both go down one segment after the other, and
falsy values make no difference (`Document.resolveFrom_cons`).  So they can only part at a list, and
there they part exactly at a segment with a plus sign at its front (`Document.ListMeetsPlus`): as an
index it is read by submissions alone.

A value is resolved at a path exactly if it is looked up there and the readers do not part on the
way (`Document.resolveFrom_eq_some_iff_lookupFrom`).  So if they part at none of the paths of
settings, a submission has the identity and the answers that rules see (`Submission.readers_agree`).
-/

namespace SurveyDispatch

namespace Document

variable {d e v : Document} {s : String} {rest : List String}

/-! ## Where the readers part -/

/-- On the way along segments, a list meets one that starts with a plus sign. -/
def ListMeetsPlus (d : Document) (segments : List String) : Prop :=
  ∃ front s rest items, segments = front ++ s :: rest ∧
    d.lookupFrom front = some (list items) ∧ Text.startsWith s "+" = true

theorem toList_plus : "+".toList = ['+'] := rfl

theorem signedIndex?_of_not_startsWith (h : ¬ Text.startsWith s "+" = true) :
    signedIndex? s = plainIndex? s := by
  unfold signedIndex? plainIndex?
  split
  next digits split =>
    refine absurd ?_ h
    rw [Text.startsWith_iff, toList_plus, split]
    exact List.prefix_append ['+'] digits
  next => rfl

/-- A plus sign is no digit. -/
theorem not_startsWith_of_plainIndex? {i : Nat} (h : plainIndex? s = some i) :
    ¬ Text.startsWith s "+" = true := by
  intro starts
  obtain ⟨digits, split⟩ := Text.startsWith_iff.mp starts
  have mem : '+' ∈ s.toList := by
    rw [← split, toList_plus]
    exact List.mem_cons_self
  have digit := (plainIndex?_eq_some_iff.mp h).digits '+' mem
  revert digit
  decide

theorem plainIndex?_eq_some_iff_signedIndex? {i : Nat} :
    plainIndex? s = some i ↔ signedIndex? s = some i ∧ ¬ Text.startsWith s "+" = true := by
  constructor
  · intro index
    have unsigned := not_startsWith_of_plainIndex? index
    exact ⟨(signedIndex?_of_not_startsWith unsigned).trans index, unsigned⟩
  · rintro ⟨index, unsigned⟩
    exact (signedIndex?_of_not_startsWith unsigned).symm.trans index

/-- The readers part at a list only. -/
theorem child?_plainIndex?_eq_some_iff :
    d.child? plainIndex? s = some e ↔
      d.child? signedIndex? s = some e ∧
        ¬ ∃ items, d = list items ∧ Text.startsWith s "+" = true := by
  cases d with
  | list items =>
    simp only [child?, Option.bind_eq_bind, Option.bind_eq_some_iff,
      plainIndex?_eq_some_iff_signedIndex?, list.injEq, exists_eq_left']
    constructor
    · rintro ⟨i, ⟨index, unsigned⟩, item⟩
      exact ⟨⟨i, index, item⟩, unsigned⟩
    · rintro ⟨⟨i, index, item⟩, unsigned⟩
      exact ⟨i, ⟨index, unsigned⟩, item⟩
  | _ => simp [child?]

/-! ## Along a path -/

theorem not_listMeetsPlus_nil : ¬ d.ListMeetsPlus [] := by
  rintro ⟨front, s, rest, items, split, -⟩
  simp at split

/-- The readers part at the first segment or behind it. -/
theorem listMeetsPlus_cons_iff :
    d.ListMeetsPlus (s :: rest) ↔
      (∃ items, d = list items ∧ Text.startsWith s "+" = true) ∨
        ∃ e, d.child? signedIndex? s = some e ∧ e.ListMeetsPlus rest := by
  constructor
  · rintro ⟨front, t, behind, items, split, found, plus⟩
    cases front with
    | nil =>
      obtain ⟨rfl, rfl⟩ := List.cons.inj split
      exact .inl ⟨items, Option.some.inj found, plus⟩
    | cons f front =>
      obtain ⟨rfl, rfl⟩ := List.cons.inj split
      rw [lookupFrom_cons] at found
      obtain ⟨e, child, found⟩ := Option.bind_eq_some_iff.mp found
      exact .inr ⟨e, child, front, t, behind, items, rfl, found, plus⟩
  · rintro (⟨items, rfl, plus⟩ | ⟨e, child, front, t, behind, items, rfl, found, plus⟩)
    · exact ⟨[], s, rest, items, rfl, rfl, plus⟩
    · refine ⟨s :: front, t, behind, items, rfl, ?_, plus⟩
      rw [lookupFrom_cons, child, Option.bind_some, found]

/-- What is resolved is what is looked up where the readers do not part. -/
theorem resolveFrom_eq_some_iff_lookupFrom {segments : List String} :
    d.resolveFrom segments = some v ↔
      d.lookupFrom segments = some v ∧ ¬ d.ListMeetsPlus segments := by
  induction segments generalizing d with
  | nil => simp [resolveFrom, lookupFrom, not_listMeetsPlus_nil]
  | cons s rest ih =>
    -- Both readers go on from the same value, unless they part here.
    simp only [resolveFrom_cons, lookupFrom_cons, Option.bind_eq_some_iff, listMeetsPlus_cons_iff,
      child?_plainIndex?_eq_some_iff, ih, not_or]
    constructor
    · rintro ⟨e, ⟨child, here⟩, found, behind⟩
      refine ⟨⟨e, child, found⟩, here, ?_⟩
      rintro ⟨other, child', parts⟩
      obtain rfl := Option.some.inj (child.symm.trans child')
      exact behind parts
    · rintro ⟨⟨e, child, found⟩, here, behind⟩
      exact ⟨e, ⟨child, here⟩, found, fun parts => behind ⟨e, child, parts⟩⟩

theorem resolve_eq_some_iff_lookup {path : String} :
    d.resolve path = some v ↔ d.lookup path = some v ∧ ¬ d.ListMeetsPlus (segments path) :=
  resolveFrom_eq_some_iff_lookupFrom

/-- Where the readers do not part, they find the same or both find nothing. -/
theorem lookup_eq_resolve {path : String} (h : ¬ d.ListMeetsPlus (segments path)) :
    d.lookup path = d.resolve path := by
  refine Option.ext fun v => ?_
  rw [resolve_eq_some_iff_lookup, and_iff_left h]

/-- What a value stands for in an identity. -/
def identifier? : Document → Option String
  | text s => some s
  | number n => some (.ofList n.write)
  | _ => none

end Document

/-! ## Submissions -/

theorem Identity.part_eq_ok_iff {record : Document} {name path a : String} :
    part record name path = .ok a ↔ (record.lookup path).bind Document.identifier? = some a := by
  unfold part
  cases record.lookup path with
  | none => simp
  | some v => cases v <;> simp [Document.identifier?]

namespace Submission

variable {s : SubmissionSettings} {record : Document} {x : Submission}

/-- The paths at which a submission is read from a record. -/
def recordPaths (s : SubmissionSettings) : List String :=
  [s.providerIdPath, s.submissionIdPath, s.formCodePath, s.answersPath]

/-- A submission has the identity and the answers that a reader of paths finds. -/
structure IsFoundBy (read : String → Option Document) (s : SubmissionSettings) (x : Submission) :
    Prop where
  /-- The provider id. -/
  provider : (read s.providerIdPath).bind Document.identifier? = some x.identity.providerId
  /-- The submission id. -/
  submission : (read s.submissionIdPath).bind Document.identifier? = some x.identity.submissionId
  /-- The form code. -/
  formCode : (read s.formCodePath).bind Document.identifier? = some x.identity.formCode
  /-- The answers, which hold the attachments. -/
  answers : ∃ pages, read s.answersPath = some (.record pages) ∧
    x.attachments = Attachment.ofPages s x.identity pages

theorem IsFoundBy.congr {read other : String → Option Document} (h : x.IsFoundBy read s)
    (same : ∀ path ∈ recordPaths s, other path = read path) : x.IsFoundBy other s := by
  simp only [recordPaths, List.forall_mem_cons] at same
  obtain ⟨provider, submission, formCode, answers, -⟩ := same
  exact ⟨by rw [provider, h.provider], by rw [submission, h.submission],
    by rw [formCode, h.formCode], by rw [answers]; exact h.answers⟩

theorem pages_eq_ok_iff {pages : List (String × Document)} :
    Submission.pages s record = .ok pages ↔ record.lookup s.answersPath = some (.record pages) := by
  unfold Submission.pages
  cases record.lookup s.answersPath with
  | none => simp
  | some v => cases v <;> simp

theorem ofRecord_eq_ok_iff :
    ofRecord s record = .ok x ↔ x.record = record ∧ x.IsFoundBy record.lookup s := by
  constructor
  · intro made
    obtain ⟨same, identity, pages, answers, attachments⟩ := ofRecord_eq_ok made
    obtain ⟨provider, submission, formCode⟩ := Identity.ofRecord_eq_ok_iff.mp identity
    exact ⟨same, Identity.part_eq_ok_iff.mp provider, Identity.part_eq_ok_iff.mp submission,
      Identity.part_eq_ok_iff.mp formCode, pages, answers,
      attachments.trans (ofPages_eq_flatMap pages).symm⟩
  · rintro ⟨rfl, found⟩
    obtain ⟨pages, answers, attachments⟩ := found.answers
    have identity : Identity.ofRecord s x.record = .ok x.identity :=
      Identity.ofRecord_eq_ok_iff.mpr ⟨Identity.part_eq_ok_iff.mpr found.provider,
        Identity.part_eq_ok_iff.mpr found.submission, Identity.part_eq_ok_iff.mpr found.formCode⟩
    rw [ofRecord, identity, pages_eq_ok_iff.mpr answers]
    show Except.ok (Submission.mk x.record x.identity _) = _
    rw [← attachments]

/-- What rules resolve, submissions look up.  Submissions look up more exactly where a list meets a
segment with a plus sign at its front.  At all other paths rules see the values that submissions are
made of. -/
theorem readers_agree (record : Document) :
    (∀ path v, record.resolve path = some v → record.lookup path = some v) ∧
    (∀ path v, record.lookup path = some v →
      (record.resolve path = some v ↔ ¬ record.ListMeetsPlus (Document.segments path))) ∧
    (∀ path, ¬ record.ListMeetsPlus (Document.segments path) →
      record.lookup path = record.resolve path) ∧
    (∀ r : Rule, ¬ record.ListMeetsPlus (Document.segments r.target) →
      r.passes record = (r.predicate.test (record.lookup r.target) != r.inverted)) ∧
    ∀ s : SubmissionSettings,
      (∀ path ∈ recordPaths s, ¬ record.ListMeetsPlus (Document.segments path)) →
        ∀ x, ofRecord s record = .ok x ↔ x.record = record ∧ x.IsFoundBy record.resolve s := by
  refine ⟨?_, ?_, ?_, ?_, ?_⟩
  · intro path v found
    exact (Document.resolve_eq_some_iff_lookup.mp found).1
  · intro path v found
    rw [Document.resolve_eq_some_iff_lookup, and_iff_right found]
  · intro path together
    exact Document.lookup_eq_resolve together
  · intro r together
    rw [Rule.passes, Document.lookup_eq_resolve together]
  · intro s together x
    have same : ∀ path ∈ recordPaths s, record.lookup path = record.resolve path :=
      fun path mem => Document.lookup_eq_resolve (together path mem)
    rw [ofRecord_eq_ok_iff, and_congr_right_iff]
    intro _
    exact ⟨fun found => found.congr fun path mem => (same path mem).symm,
      fun found => found.congr same⟩

/-- A record in which plus signs stand as names and in front of indexes. -/
def signed : Document :=
  .record [("ids", .list [.text "acme", .text "7"]),
    ("+1", .record [("page", .record [("front", .text "a.jpg")])])]

/-- Settings for this record.  The answers have a name that starts with a plus sign. -/
def signedSettings : SubmissionSettings where
  providerIdPath := "ids/0"
  submissionIdPath := "ids/01"
  formCodePath := "ids/1"
  answersPath := "+1"

/-- A plus sign in front of an index parts the readers, and one in front of a name does not. -/
theorem readers_agree_signed :
    signed.lookup "ids/+1" = some (.text "7") ∧ signed.resolve "ids/+1" ≠ some (.text "7") ∧
      ∃ x, ofRecord signedSettings signed = .ok x ∧ x.attachments ≠ [] ∧
        x.IsFoundBy signed.resolve signedSettings := by
  obtain ⟨-, resolved, -, -, submissions⟩ := readers_agree signed
  have parts : signed.ListMeetsPlus (Document.segments "ids/+1") :=
    ⟨["ids"], "+1", [], _, rfl, rfl, rfl⟩
  have together : ∀ path ∈ recordPaths signedSettings,
      ¬ signed.ListMeetsPlus (Document.segments path) := by
    intro path mem
    have found : ∃ v, signed.resolve path = some v := by
      simp only [recordPaths, List.mem_cons, List.not_mem_nil, or_false] at mem
      rcases mem with rfl | rfl | rfl | rfl <;> exact ⟨_, rfl⟩
    obtain ⟨v, found⟩ := found
    exact (Document.resolve_eq_some_iff_lookup.mp found).2
  refine ⟨rfl, fun same => (resolved _ _ rfl).mp same parts, _, rfl, List.cons_ne_nil _ _, ?_⟩
  exact ((submissions signedSettings together _).mp rfl).2

end Submission

end SurveyDispatch
