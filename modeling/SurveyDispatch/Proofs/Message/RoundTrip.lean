import SurveyDispatch.Proofs.Message.Published

/-!
# Messages there and back

A message goes to its consumer through three layers.  It is written as a document, the bytes of
the document are written in base64, and the text of that is a field of the push body, which is a
document again.

The outer two layers give back whatever was put in.  The inner one gives back documents that nest at
most 126 deep, with the names of their fields in the order in which they were written
(`Message.pushed_is_read`).
-/

namespace SurveyDispatch

namespace Message

open Document

/-- A message is read from its push body, whatever the id of the delivery, if its survey nests at
most 126 deep, and is refused otherwise.  The binary64 numbers of the survey have to be read back
from their texts. -/
theorem pushed_is_read {m : Message} (distinct : m.survey.Distinct)
    (floats : m.survey.FloatsReadBack) (id : Option (Option String)) :
    (m.survey.depth ≤ 126 → ofPush (pushBody m.toBytes id) = .ok m) ∧
      (126 < m.survey.depth → ofPush (pushBody m.toBytes id) = .error .notAMessage) := by
  have held := ofBytes?_toBytes distinct floats.readsBack
  constructor
  · intro fits
    rw [ofPush_pushBody, held, if_pos (show m.survey.depth ≤ surveyDepth from fits)]
  · intro deep
    have excess : ¬ m.survey.depth ≤ surveyDepth := Nat.not_le.mpr deep
    rw [ofPush_pushBody, held, if_neg excess]

/-! ## A message up to the brim

Its names are out of order, its texts have to be escaped, and its survey nests as deep as wanted. -/

/-- A message whose survey nests one deeper than a nested value. -/
def brim (n : Nat) : Message where
  survey := record [("\x00\"\\😀", nested n), ("é", text "\n\x1f\x7f/\u2028"), ("", .bool true),
    ("b", .number (.float (.zero true))),
    ("a", .list [.number (.float ⟨false, 7205759403792794, 1018, by decide⟩), .null])]
  source := "entries/😀.json"
  topic := "surveys"
  publishedAt := "\t"

theorem distinct_brim (n : Nat) : (brim n).survey.Distinct := by
  simp [brim, Distinct, DistinctFields, DistinctItems, distinct_nested]

theorem depth_brim (n : Nat) : (brim (n + 1)).survey.depth = n + 2 := by
  simp [brim, depth, depthOfFields, depthOfItems, depth_nested]

theorem floatsReadBack_brim (n : Nat) : (brim n).survey.FloatsReadBack := by
  intro x mem
  simp only [brim, numbers, numbersOfFields, numbersOfItems, numbers_nested, List.append_nil,
    List.nil_append, List.cons_append, List.mem_cons, List.not_mem_nil, or_false,
    Number.float.injEq] at mem
  rcases mem with rfl | rfl <;> decide +kernel

theorem pushed_is_read_brim :
    ofPush (pushBody (brim 125).toBytes (some (some "4\"2"))) = .ok (brim 125) ∧
      ofPush (pushBody (brim 126).toBytes none) = .error .notAMessage :=
  ⟨(pushed_is_read (distinct_brim 125) (floatsReadBack_brim 125) _).1 (depth_brim 124).le,
    (pushed_is_read (distinct_brim 126) (floatsReadBack_brim 126) _).2 (depth_brim 125).ge⟩

end Message

end SurveyDispatch
