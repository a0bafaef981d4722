import SurveyDispatch.Proofs.Document.Reading

/-!
# Outlines of written documents

A written document is skipped as a whole, however deep it nests (`Document.takes_skipValue`).  A
document has no more levels than bytes, so that the levels that a value is skipped with are always
enough.  So the outline of a written record gives the bytes of each field
(`Document.rawFields?_bytes`).
-/

namespace SurveyDispatch.Document

open Ascii Utf8

/-! ## Skipping -/

/-- A scalar is skipped in the same way at every level. -/
theorem skipValue_of_scalar {d : Document} (h : d.ReadsBack) (scalar : d.depth = 0) (levels : Nat)
    (rest : Bytes) : skipValue levels (d.bytes ++ rest) = skipScalar (d.bytes ++ rest) := by
  obtain ⟨b, bs, written, blank, bracket, brace⟩ := h.starts_scalar scalar
  rw [written, List.cons_append]
  cases levels with
  | zero =>
    rw [skipValue]
    dsimp only
    rw [skipBlanks_cons _ blank]
  | succ levels =>
    rw [skipValue]
    dsimp only
    rw [skipBlanks_cons _ blank]
    split
    next eq => exact absurd (List.head_eq_of_cons_eq eq) bracket
    next eq => exact absurd (List.head_eq_of_cons_eq eq) brace
    next => rfl

/-- What starts like a number is skipped as one. -/
theorem skipScalar_number {b : UInt8} (rest : Bytes) (h : isNumberByte b = true) :
    skipScalar (b :: rest) =
      (Number.Literal.read? (((b :: rest).takeWhile isNumberByte).map char)).map
        fun _ => ((), (b :: rest).dropWhile isNumberByte) := by
  obtain ⟨-, -, -, -, quoted, n, t, f⟩ := of_isNumberByte h
  unfold skipScalar
  dsimp only
  split
  next eq => exact absurd eq quoted
  next eq => exact absurd eq n
  next eq => exact absurd eq t
  next eq => exact absurd eq f
  next => exact Option.map_eq_bind.symm

/-- Skipping a written scalar ends where its bytes end. -/
theorem skipScalar_bytes {d : Document} (h : d.ReadsBack) (scalar : d.depth = 0) {rest : Bytes}
    (stops : Stops rest) : skipScalar (d.bytes ++ rest) = some ((), rest) := by
  cases d with
  | null =>
    have word : skipScalar (null.bytes ++ rest) =
      (expect "null" (null.bytes ++ rest)).bind fun r => some ((), r) := rfl
    rw [word, expect_of_encode encode_null]
    rfl
  | bool b =>
    cases b with
    | true =>
      have word : skipScalar ((bool true).bytes ++ rest) =
        (expect "true" ((bool true).bytes ++ rest)).bind fun r => some ((), r) := rfl
      rw [word, expect_of_encode encode_true]
      rfl
    | false =>
      have word : skipScalar ((bool false).bytes ++ rest) =
        (expect "false" ((bool false).bytes ++ rest)).bind fun r => some ((), r) := rfl
      rw [word, expect_of_encode encode_false]
      rfl
  | number n =>
    have read := h n (List.mem_singleton.mpr rfl)
    obtain ⟨l, literal, -⟩ := Option.bind_eq_some_iff.mp read
    obtain ⟨taken, left⟩ := split_number (Number.isNumberChar_of_read? read).2 stops
    obtain ⟨b, bs, written, byte⟩ := bytes_number read
    have same : encodeChars n.write = b :: bs := written
    rw [same, List.cons_append] at taken left
    rw [written, List.cons_append, skipScalar_number _ byte, taken, left, literal]
    rfl
  | text s =>
    rw [bytes_text, List.cons_append]
    show skipText (bytesOfText s ++ rest) = _
    rw [skipText_bytesOfText]
  | list _ => cases scalar
  | record _ => cases scalar

theorem skipValue_list {levels : Nat} {bytes rest : Bytes} :
    skipValue (levels + 1) (openBracket :: bytes ++ rest) =
      (readList (skipValue levels) (bytes ++ rest)).map fun r => ((), r.2) := by
  exact Option.map_eq_bind.symm

theorem skipValue_record {levels : Nat} {bytes rest : Bytes} :
    skipValue (levels + 1) (openBrace :: bytes ++ rest) =
      (readRecord skipText (skipValue levels) (bytes ++ rest)).map fun r => ((), r.2) := by
  exact Option.map_eq_bind.symm

/-- A written scalar can be skipped wherever it stands. -/
theorem takes_skipValue_of_scalar {d : Document} (h : d.ReadsBack) (scalar : d.depth = 0)
    (levels : Nat) : Takes (skipValue levels) d (some ()) := by
  intro rest stops
  rw [skipValue_of_scalar h scalar, skipScalar_bytes h scalar stops]
  rfl

/-- A written document is skipped if there are enough levels for it. -/
theorem takes_skipValue {d : Document} (h : d.ReadsBack) {levels : Nat}
    (enough : d.depth ≤ levels) : Takes (skipValue levels) d (some ()) := by
  induction d generalizing levels with
  | null => exact takes_skipValue_of_scalar h rfl levels
  | bool b => exact takes_skipValue_of_scalar h rfl levels
  | number n => exact takes_skipValue_of_scalar h rfl levels
  | text s => exact takes_skipValue_of_scalar h rfl levels
  | list items ih =>
    intro rest _
    obtain ⟨bytes, written⟩ := bytes_list items
    cases levels with
    | zero => exact absurd enough (Nat.not_succ_le_zero _)
    | succ levels =>
      have below : ∀ x ∈ items, Takes (skipValue levels) x (some ()) := fun x mem =>
        ih x mem (readsBack_list_iff.mp h x mem) (depth_list_le_iff.mp enough x mem)
      have starts : ∀ x ∈ items, x.Starts := fun x mem => (readsBack_list_iff.mp h x mem).starts
      rw [written, skipValue_list, readList_bytes starts below written, mapM_some fun _ _ => rfl]
      rfl
  | record fields ih =>
    intro rest _
    obtain ⟨bytes, written⟩ := bytes_record fields
    cases levels with
    | zero => exact absurd enough (Nat.not_succ_le_zero _)
    | succ levels =>
      have below : ∀ f ∈ fields, Takes (skipValue levels) f.2 (some ()) := fun f mem =>
        ih f mem (readsBack_record_iff.mp h f mem) (depth_record_le_iff.mp enough f mem)
      have all : (fields.mapM fun _ => (some ()).map fun a => ((), a)) =
        some (fields.map fun _ => ((), ())) := mapM_some fun _ _ => rfl
      rw [written, skipValue_record, readRecord_bytes skipText_bytesOfText below written, all]
      rfl

/-! ## Levels and bytes -/

/-- Items nest at most as deep as they have bytes. -/
theorem depthOfItems_le_length {items : List Document}
    (h : ∀ x ∈ items, x.depth ≤ x.bytes.length) :
    depthOfItems items ≤ (bytesOfItems items).length := by
  induction items with
  | nil => exact Nat.zero_le _
  | cons x xs ih =>
    obtain ⟨head, tail⟩ := List.forall_mem_cons.mp h
    have later := ih tail
    rw [depthOfItems, bytesOfItems_cons, List.length_cons, List.length_append]
    omega

theorem length_bytesOfField (f : String × Document) :
    f.2.bytes.length ≤ (bytesOfField f).length := by
  rw [bytesOfField, List.cons_append, List.length_cons, List.length_append, List.length_cons]
  omega

/-- Values nest at most as deep as their record has bytes. -/
theorem depthOfFields_le_length {fields : List (String × Document)}
    (h : ∀ f ∈ fields, f.2.depth ≤ f.2.bytes.length) :
    depthOfFields fields ≤ (bytesOfFields fields).length := by
  induction fields with
  | nil => exact Nat.zero_le _
  | cons f fs ih =>
    obtain ⟨head, tail⟩ := List.forall_mem_cons.mp h
    have later := ih tail
    have field := length_bytesOfField f
    rw [depthOfFields, bytesOfFields_cons, List.length_cons, List.length_append]
    omega

/-- A document has no more levels than bytes. -/
theorem depth_le_length_bytes (d : Document) : d.depth ≤ d.bytes.length := by
  induction d with
  | null => exact Nat.zero_le _
  | bool _ => exact Nat.zero_le _
  | number _ => exact Nat.zero_le _
  | text _ => exact Nat.zero_le _
  | list items ih =>
    cases items with
    | nil => decide
    | cons x xs =>
      obtain ⟨head, tail⟩ := List.forall_mem_cons.mp ih
      have later := depthOfItems_le_length tail
      rw [depth, depthOfItems, bytes_list_cons, List.length_cons, List.length_append]
      omega
  | record fields ih =>
    cases fields with
    | nil => decide
    | cons f fs =>
      obtain ⟨head, tail⟩ := List.forall_mem_cons.mp ih
      have later := depthOfFields_le_length tail
      have field := length_bytesOfField f
      rw [depth, depthOfFields, bytes_record_cons, List.length_cons, List.length_append]
      omega

/-! ## Fields of an outline -/

/-- The bytes of a written document are those of the value at the front. -/
theorem takes_rawValue {d : Document} (h : d.ReadsBack) : Takes rawValue d (some d.bytes) := by
  intro rest stops
  have enough : d.depth ≤ (d.bytes ++ rest).length := by
    have := depth_le_length_bytes d
    rw [List.length_append]
    omega
  rw [rawValue, takes_skipValue h enough rest stops]
  simp only [Option.map_some, Option.bind_eq_bind, Option.bind_some, List.length_append,
    Nat.add_sub_cancel, List.take_left]
  rfl

/-- The outline of a written record gives the bytes of the values of its fields. -/
theorem rawFields?_bytes {fields : List (String × Document)} (h : (record fields).ReadsBack)
    (names : List String) :
    rawFields? names (record fields).bytes =
      names.mapM (rawValueOf? (fields.map fun f => (f.1, f.2.bytes))) := by
  obtain ⟨bytes, written⟩ := bytes_record fields
  have below : ∀ f ∈ fields, Takes rawValue f.2 (some f.2.bytes) :=
    fun f mem => takes_rawValue (readsBack_record_iff.mp h f mem)
  have read := readRecord_bytes readText_bytesOfText below written []
  have all : (fields.mapM fun f => (some f.2.bytes).map fun a => (f.1, a)) =
    some (fields.map fun f => (f.1, f.2.bytes)) := mapM_some fun _ _ => rfl
  rw [all, List.append_nil] at read
  rw [written]
  show (readRecord readText rawValue bytes).bind _ = _
  rw [read, Option.map_some, Option.bind_some]
  have nothing : skipBlanks [] = [] := rfl
  dsimp only
  rw [if_pos nothing]

end SurveyDispatch.Document
