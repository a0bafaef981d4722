import SurveyDispatch.Proofs.Batch.Accounting
import SurveyDispatch.Proofs.Document.DistinctNames
import SurveyDispatch.Proofs.Message.Delivery
import SurveyDispatch.Proofs.Submission.Compiled

/-!
# Which published messages can be read

A record is read if it nests at most 127 deep.  The survey of a message has three levels around the
compiled record, which nests as deep as the record (`Submission.depth_geoJson`), and the message has
one more.  The consumer reads at most 127 levels again.  So a message can be read if and only if the
record nests at most 123 deep (`Pipeline.published_is_read`).
-/

namespace SurveyDispatch

namespace Submission

variable {s : SubmissionSettings} {x : Submission} (c : Coordinates)

/-- A coordinate does not nest. -/
theorem depth_ofReal (y : Real64) : (Document.ofReal y).depth = 0 := by
  cases y <;> rfl

theorem distinct_ofReal (y : Real64) : (Document.ofReal y).Distinct := by
  cases y <;> exact trivial

/-- The survey has three levels around the compiled record. -/
theorem depth_geoJson : (x.geoJson s c).depth = max 2 (x.compiled s).depth + 3 := by
  simp only [geoJson, Document.depth, Document.depthOfFields, Document.depthOfItems, depth_ofReal]
  omega

/-- A GeoJSON has distinct names if the compiled record has. -/
theorem distinct_geoJson (h : (x.compiled s).Distinct) : (x.geoJson s c).Distinct := by
  simp [geoJson, Document.Distinct, Document.DistinctFields, Document.DistinctItems,
    distinct_ofReal, h]

end Submission

namespace Pipeline

variable {σ : Type} [ObjectStore σ] {p : Pipeline} {store : σ}

/-- The survey of a stored submission has distinct names, and nests three levels deeper than the
record. -/
theorem Locates.survey {key : String} {x : Submission} {point : Coordinates}
    (h : p.Locates store key x point) :
    (x.geoJson p.settings point).Distinct ∧
      (x.geoJson p.settings point).depth = max 2 x.record.depth + 3 := by
  obtain ⟨bytes, -, read⟩ := h.stored
  obtain ⟨read, record⟩ := Submission.ofBytes_eq_ok read
  have distinct := Document.distinct_of_read? read
  constructor
  · refine Submission.distinct_geoJson point (Document.distinct_skeleton.mp ?_)
    rw [Submission.skeleton_compiled record distinct]
    exact Document.distinct_skeleton.mpr distinct
  · rw [Submission.depth_geoJson, Submission.depth_compiled record distinct]

/-- A key holds one submission at one place. -/
theorem Locates.unique {key : String} {x y : Submission} {point point' : Coordinates}
    (h : p.Locates store key x point) (h' : p.Locates store key y point') :
    x = y ∧ point = point' := by
  obtain ⟨bytes, stored, read⟩ := h.stored
  obtain ⟨bytes', stored', read'⟩ := h'.stored
  cases stored.symm.trans stored'
  cases read.symm.trans read'
  obtain ⟨address, parsed, located⟩ := h.located
  obtain ⟨address', parsed', located'⟩ := h'.located
  cases parsed.symm.trans parsed'
  cases located.symm.trans located'
  exact ⟨rfl, rfl⟩

/-- A published message can be read by its consumer if and only if the record of the submission
nests at most 123 deep.  It then carries the survey, the key and the topic.  The binary64 numbers of
the survey have to be read back from their texts. -/
theorem published_is_read {publisher publisher' : Publisher} {key topic id : String}
    (h : p.process store publisher key = (.ok (.published topic id), publisher')) :
    ∃ x point time payload, p.Publishable store key topic x point ∧
      publisher'.messages = publisher.messages ++ [⟨id, topic, payload⟩] ∧
      ((x.geoJson p.settings point).FloatsReadBack →
        Message.ofPush (Message.pushBody payload none) =
          if x.record.depth ≤ 123 then .ok ⟨x.geoJson p.settings point, key, topic, time⟩
          else .error .notAMessage) := by
  cases step_of_process h with
  | held _ _ unpublished => exact absurd rfl (unpublished topic id)
  | published ready settled _ =>
    obtain ⟨x, point, publishable, survey⟩ := settle_ready settled
    obtain ⟨distinct, depth⟩ := publishable.toLocates.survey
    refine ⟨x, point, p.clock (publisher.lastId + 1), _, publishable, rfl, fun floats => ?_⟩
    have room : (x.geoJson p.settings point).depth ≤ Message.surveyDepth ↔
        x.record.depth ≤ 123 := by
      rw [depth, Message.surveyDepth, Document.maxDepth]
      omega
    rw [Message.ofPush_pushBody, message, survey,
      Message.ofBytes?_toBytes distinct floats.readsBack]
    by_cases fits : x.record.depth ≤ 123
    · rw [if_pos (room.mpr fits), if_pos fits]
    · rw [if_neg (mt room.mp fits), if_neg fits]

end Pipeline

/-! ## Deep records

The last record that can be read back from its message, and the first one that cannot. -/

namespace Document

/-- The null value inside so many lists. -/
def nested : Nat → Document
  | 0 => null
  | n + 1 => list [nested n]

theorem depth_nested (n : Nat) : (nested n).depth = n := by
  induction n with
  | zero => rfl
  | succ n ih => rw [nested, depth, depthOfItems, depthOfItems, ih, Nat.max_zero]

theorem distinct_nested (n : Nat) : (nested n).Distinct := by
  induction n with
  | zero => exact trivial
  | succ n ih => exact ⟨ih, trivial⟩

theorem numbers_nested (n : Nat) : (nested n).numbers = [] := by
  induction n with
  | zero => rfl
  | succ n ih => rw [nested, numbers, numbersOfItems, numbersOfItems, ih, List.nil_append]

/-- A record with an address and a nested value. -/
def deep (n : Nat) : Document :=
  record [("p", text "P"), ("s", text "S"), ("f", text "F"), ("k", text "12"), ("a", record []),
    ("x", nested n)]

theorem depth_deep (n : Nat) : (deep n).depth = max 1 n + 1 := by
  simp [deep, depth, depthOfFields, depth_nested]

theorem distinct_deep (n : Nat) : (deep n).Distinct := by
  simp [deep, Distinct, DistinctFields, distinct_nested]

theorem numbers_deep (n : Nat) : (deep n).numbers = [] := by
  simp [deep, numbers, numbersOfFields, numbers_nested]

end Document

/-- The submission of a deep record. -/
def Submission.deep (n : Nat) : Submission := ⟨.deep n, ⟨"P", "S", "F"⟩, []⟩

/-- The store of a deep record. -/
def MemoryStore.deep (n : Nat) : MemoryStore := .ofList [("e", (Document.deep n).bytes)]

/-- The deep record is a submission up to the depth that can be read. -/
theorem Submission.ofBytes_deep {n : Nat} (h : n ≤ 126) :
    ofBytes .small (Document.deep n).bytes = .ok (deep n) := by
  have fits : (Document.deep n).depth ≤ Document.maxDepth := by
    rw [Document.depth_deep, Document.maxDepth]
    omega
  have reads : (Document.deep n).ReadsBack := by
    intro number mem
    rw [Document.numbers_deep] at mem
    cases mem
  have read : Document.read? (Document.deep n).bytes = some (Document.deep n) := by
    rw [Document.read?, Document.readWithin?_bytes (Document.distinct_deep n) reads,
      Document.within, if_pos fits]
  rw [ofBytes, read]
  rfl

/-- The store of the deep record holds it under its key, and its address is known. -/
theorem Pipeline.locates_deep {n : Nat} (h : n ≤ 126) :
    Pipeline.small.Locates (MemoryStore.deep n) "e" (.deep n)
      ⟨.finite (.zero false), .finite (.zero false)⟩ :=
  ⟨⟨_, rfl, Submission.ofBytes_deep h⟩, ⟨⟨"1", "2", none⟩, rfl, rfl⟩⟩

/-- The deep record is published as long as it can be read. -/
theorem Pipeline.process_deep {n : Nat} (h : n ≤ 126) :
    (Pipeline.small.process (MemoryStore.deep n) .empty "e").1 =
      .ok (.published "surveys" "1") := by
  have stored : ObjectStore.get (MemoryStore.deep n) "e" = .ok (Document.deep n).bytes := rfl
  rw [process, stored]
  simp only [prepare]
  rw [show Pipeline.small.settings = SubmissionSettings.small from rfl, Submission.ofBytes_deep h]
  rfl

/-- The deep record holds no numbers, so that its GeoJSON reads back. -/
theorem Submission.floatsReadBack_deep (n : Nat) :
    ((deep n).geoJson .small ⟨.finite (.zero false), .finite (.zero false)⟩).FloatsReadBack := by
  have compiled : (deep n).compiled .small = .deep n := rfl
  intro x mem
  simp only [geoJson, compiled, Document.numbers, Document.numbersOfFields,
    Document.numbersOfItems, Document.numbers_deep, Document.ofReal, List.append_nil,
    List.nil_append, List.cons_append, List.mem_cons, List.not_mem_nil, or_false, or_self,
    Number.float.injEq] at mem
  rw [mem]
  decide +kernel

theorem Pipeline.published_is_read_deep :
    (∃ publisher payload,
      Pipeline.small.process (MemoryStore.deep 122) .empty "e" =
        (.ok (.published "surveys" "1"), publisher) ∧
      publisher.messages = [⟨"1", "surveys", payload⟩] ∧
      ∃ m, Message.ofPush (Message.pushBody payload none) = .ok m ∧ m.source = "e") ∧
    ∃ publisher payload,
      Pipeline.small.process (MemoryStore.deep 123) .empty "e" =
        (.ok (.published "surveys" "1"), publisher) ∧
      publisher.messages = [⟨"1", "surveys", payload⟩] ∧
      Message.ofPush (Message.pushBody payload none) = .error .notAMessage := by
  have run : ∀ n ≤ 126, Pipeline.small.process (MemoryStore.deep n) .empty "e" =
      (.ok (.published "surveys" "1"),
        (Pipeline.small.process (MemoryStore.deep n) .empty "e").2) := by
    intro n h
    rw [← process_deep h]
  constructor
  · obtain ⟨x, point, time, payload, publishable, messages, read⟩ :=
      published_is_read (run 122 (by decide))
    obtain ⟨rfl, rfl⟩ := publishable.toLocates.unique (locates_deep (by decide))
    have read := read (Submission.floatsReadBack_deep 122)
    rw [if_pos (by rw [Submission.deep, Document.depth_deep]; decide)] at read
    exact ⟨_, payload, run 122 (by decide), messages, _, read, rfl⟩
  · obtain ⟨x, point, time, payload, publishable, messages, read⟩ :=
      published_is_read (run 123 (by decide))
    obtain ⟨rfl, rfl⟩ := publishable.toLocates.unique (locates_deep (by decide))
    have read := read (Submission.floatsReadBack_deep 123)
    rw [if_neg (by rw [Submission.deep, Document.depth_deep]; decide)] at read
    exact ⟨_, payload, run 123 (by decide), messages, read⟩

end SurveyDispatch
