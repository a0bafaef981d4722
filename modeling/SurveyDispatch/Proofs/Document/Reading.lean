import SurveyDispatch.Proofs.Document.Nesting
import SurveyDispatch.Proofs.Document.Sequences
import SurveyDispatch.Proofs.Number.Reading

/-!
# Written documents are read back

A written document is read back if it nests no deeper than the reader allows, and is refused
otherwise (`Document.takes_readValue`).  Its names have to be distinct, because of fields with one
name only one is kept, and its numbers have to be read back (`Document.ReadsBack`).
-/

namespace SurveyDispatch.Document

open Ascii Utf8

/-- The numbers in a document are read back from their texts. -/
def ReadsBack (d : Document) : Prop := ∀ n ∈ d.numbers, Number.read? n.write = some n

/-- The binary64 numbers in a document are read back from their texts. -/
def FloatsReadBack (d : Document) : Prop :=
  ∀ x, Number.float x ∈ d.numbers → Number.read? (Number.float x).write = some (.float x)

/-- Whole numbers are always read back.  Only the binary64 numbers count. -/
theorem FloatsReadBack.readsBack {d : Document} (h : d.FloatsReadBack) : d.ReadsBack := by
  intro n mem
  cases n with
  | integer i range => exact Number.read?_write_integer i range
  | float x => exact h x mem

/-- A list reads back if all of its items do. -/
theorem readsBack_list_iff {items : List Document} :
    (list items).ReadsBack ↔ ∀ x ∈ items, x.ReadsBack := by
  unfold ReadsBack
  rw [numbers_list_eq_flatMap, List.forall_mem_flatMap]

/-- A record reads back if all of its values do. -/
theorem readsBack_record_iff {fields : List (String × Document)} :
    (record fields).ReadsBack ↔ ∀ f ∈ fields, f.2.ReadsBack := by
  unfold ReadsBack
  rw [numbers_record_eq_flatMap, List.forall_mem_flatMap]

/-- A text reads back, since it holds no number. -/
theorem readsBack_text (s : String) : (text s).ReadsBack := by
  intro n mem
  cases mem

/-! ## Numbers -/

/-- What a byte of a number is not. -/
theorem of_isNumberByte {b : UInt8} (h : isNumberByte b = true) :
    isBlank b = false ∧ b ≠ openBracket ∧ b ≠ closeBracket ∧ b ≠ openBrace ∧ char b ≠ '"' ∧
      char b ≠ 'n' ∧ char b ≠ 't' ∧ char b ≠ 'f' := by
  have all : ∀ n < 256, isNumberByte (.ofNat n) = true →
      isBlank (.ofNat n) = false ∧ UInt8.ofNat n ≠ openBracket ∧ UInt8.ofNat n ≠ closeBracket ∧
        UInt8.ofNat n ≠ openBrace ∧ char (.ofNat n) ≠ '"' ∧ char (.ofNat n) ≠ 'n' ∧
        char (.ofNat n) ≠ 't' ∧ char (.ofNat n) ≠ 'f' := by decide +kernel
  have here := all b.toNat b.toNat_lt
  rw [UInt8.ofNat_toNat] at here
  exact here h

/-- A character of a number is one byte, and that byte belongs to numbers too. -/
theorem encodeChar_of_isNumberChar {c : Char} (h : Number.IsNumberChar c) :
    encodeChar c = [.ofNat c.toNat] ∧ char (.ofNat c.toNat) = c ∧
      isNumberByte (.ofNat c.toNat) = true := by
  have low : c.toNat < 0x80 := by
    rcases h with digit | rfl | rfl | rfl | rfl | rfl
    · exact Nat.lt_of_le_of_lt (Char.isDigit_iff_toNat.mp digit).2 (by decide)
    all_goals decide
  have same : char (.ofNat c.toNat) = c := by
    rw [char, toNat_ofNat_of_lt (by omega), Char.ofNat_toNat]
  refine ⟨encodeChar_of_lt low, same, ?_⟩
  rw [isNumberByte, same]
  rcases h with digit | rfl | rfl | rfl | rfl | rfl
  · rw [digit]
    rfl
  all_goals rfl

theorem encodeChars_of_isNumberChar {cs : List Char} (h : ∀ c ∈ cs, Number.IsNumberChar c) :
    encodeChars cs = cs.map fun c => .ofNat c.toNat := by
  induction cs with
  | nil => rfl
  | cons c cs ih =>
    obtain ⟨head, tail⟩ := List.forall_mem_cons.mp h
    rw [encodeChars_cons, (encodeChar_of_isNumberChar head).1, ih tail]
    rfl

/-- The bytes of a number text, and what is left behind them. -/
theorem split_number {cs : List Char} (h : ∀ c ∈ cs, Number.IsNumberChar c) {rest : Bytes}
    (stops : Stops rest) :
    ((encodeChars cs ++ rest).takeWhile isNumberByte).map char = cs ∧
      (encodeChars cs ++ rest).dropWhile isNumberByte = rest := by
  have all : ∀ b ∈ encodeChars cs, isNumberByte b = true := by
    rw [encodeChars_of_isNumberChar h]
    intro b mem
    obtain ⟨c, member, rfl⟩ := List.mem_map.mp mem
    exact (encodeChar_of_isNumberChar (h c member)).2.2
  have ends : rest.takeWhile isNumberByte = [] ∧ rest.dropWhile isNumberByte = rest := by
    cases rest with
    | nil => exact ⟨rfl, rfl⟩
    | cons b bs =>
      have other : ¬ isNumberByte b = true := by
        rw [stops b rfl]
        exact Bool.false_ne_true
      exact ⟨List.takeWhile_cons_of_neg other, List.dropWhile_cons_of_neg other⟩
  rw [List.takeWhile_append_of_pos all, List.dropWhile_append_of_pos all, ends.1, ends.2,
    List.append_nil, encodeChars_of_isNumberChar h, List.map_map]
  refine ⟨?_, rfl⟩
  have same : ∀ c ∈ cs, (char ∘ fun c => .ofNat c.toNat) c = c :=
    fun c mem => (encodeChar_of_isNumberChar (h c mem)).2.1
  rw [List.map_congr_left same, List.map_id']

/-! ## The first byte -/

/-- A number text starts with a byte of a number. -/
theorem bytes_number {n : Number} (h : Number.read? n.write = some n) :
    ∃ b rest, (number n).bytes = b :: rest ∧ isNumberByte b = true := by
  obtain ⟨filled, all⟩ := Number.isNumberChar_of_read? h
  have written : (number n).bytes = n.write.map fun c => .ofNat c.toNat :=
    encodeChars_of_isNumberChar all
  rw [written]
  cases text : n.write with
  | nil => exact absurd text filled
  | cons c cs =>
    rw [text] at all
    exact ⟨_, _, rfl, (encodeChar_of_isNumberChar (all c List.mem_cons_self)).2.2⟩

/-- No document starts with a blank or a closing bracket. -/
theorem ReadsBack.starts {d : Document} (h : d.ReadsBack) : d.Starts := by
  cases d with
  | null => exact ⟨_, _, rfl, by decide, by decide⟩
  | bool b => cases b <;> exact ⟨_, _, rfl, by decide, by decide⟩
  | number n =>
    obtain ⟨b, rest, written, byte⟩ := bytes_number (h n (List.mem_singleton.mpr rfl))
    exact ⟨b, rest, written, (of_isNumberByte byte).1, (of_isNumberByte byte).2.2.1⟩
  | text s => exact ⟨_, _, bytes_text s, by decide, by decide⟩
  | list items =>
    cases items with
    | nil => exact ⟨_, _, bytes_list_nil, by decide, by decide⟩
    | cons x xs => exact ⟨_, _, bytes_list_cons x xs, by decide, by decide⟩
  | record fields =>
    cases fields with
    | nil => exact ⟨_, _, bytes_record_nil, by decide, by decide⟩
    | cons f fs => exact ⟨_, _, bytes_record_cons f fs, by decide, by decide⟩

/-- A document that is neither a list nor a record does not start like one. -/
theorem ReadsBack.starts_scalar {d : Document} (h : d.ReadsBack) (scalar : d.depth = 0) :
    ∃ b rest, d.bytes = b :: rest ∧ isBlank b = false ∧ b ≠ openBracket ∧ b ≠ openBrace := by
  cases d with
  | null => exact ⟨_, _, rfl, by decide, by decide, by decide⟩
  | bool b => cases b <;> exact ⟨_, _, rfl, by decide, by decide, by decide⟩
  | number n =>
    obtain ⟨b, rest, written, byte⟩ := bytes_number (h n (List.mem_singleton.mpr rfl))
    obtain ⟨blank, bracket, -, brace, -⟩ := of_isNumberByte byte
    exact ⟨b, rest, written, blank, bracket, brace⟩
  | text s => exact ⟨_, _, bytes_text s, by decide, by decide, by decide⟩
  | list _ => cases scalar
  | record _ => cases scalar

/-! ## Scalars -/

/-- A scalar is read in the same way at every depth. -/
theorem readValue_of_scalar {d : Document} (h : d.ReadsBack) (scalar : d.depth = 0) (room : Nat)
    (rest : Bytes) : readValue room (d.bytes ++ rest) = readScalar (d.bytes ++ rest) := by
  obtain ⟨b, bs, written, blank, bracket, brace⟩ := h.starts_scalar scalar
  rw [written, List.cons_append]
  cases room with
  | zero =>
    rw [readValue]
    dsimp only
    rw [skipBlanks_cons _ blank]
  | succ room =>
    rw [readValue]
    dsimp only
    rw [skipBlanks_cons _ blank]
    split
    next eq => exact absurd (List.head_eq_of_cons_eq eq) bracket
    next eq => exact absurd (List.head_eq_of_cons_eq eq) brace
    next => rfl

theorem expect_of_encode {word : String} {front : Bytes} (h : encode word = front)
    (rest : Bytes) : expect word (front ++ rest) = some rest := by
  subst h
  have starts : (encode word).isPrefixOf (encode word ++ rest) = true :=
    List.isPrefixOf_iff_prefix.mpr (List.prefix_append _ _)
  rw [expect, if_pos starts, List.drop_left]

theorem encode_null : encode "null" = null.bytes := by decide

theorem encode_true : encode "true" = (bool true).bytes := by decide

theorem encode_false : encode "false" = (bool false).bytes := by decide

/-- What starts like a number is read as one. -/
theorem readScalar_eq_readNumber {b : UInt8} (rest : Bytes) (h : isNumberByte b = true) :
    readScalar (b :: rest) =
      (readNumber (b :: rest)).map fun r => (number r.1, r.2) := by
  obtain ⟨-, -, -, -, quoted, n, t, f⟩ := of_isNumberByte h
  unfold readScalar
  dsimp only
  split
  next eq => exact absurd eq quoted
  next eq => exact absurd eq n
  next eq => exact absurd eq t
  next eq => exact absurd eq f
  next => exact Option.map_eq_bind.symm

/-- Reading a written scalar gives it back, and ends where its bytes end. -/
theorem readScalar_bytes {d : Document} (h : d.ReadsBack) (scalar : d.depth = 0) {rest : Bytes}
    (stops : Stops rest) : readScalar (d.bytes ++ rest) = some (d, rest) := by
  cases d with
  | null =>
    have word : readScalar (null.bytes ++ rest) =
      (expect "null" (null.bytes ++ rest)).bind fun r => some (null, r) := rfl
    rw [word, expect_of_encode encode_null]
    rfl
  | bool b =>
    cases b with
    | true =>
      have word : readScalar ((bool true).bytes ++ rest) =
        (expect "true" ((bool true).bytes ++ rest)).bind fun r => some (bool true, r) := rfl
      rw [word, expect_of_encode encode_true]
      rfl
    | false =>
      have word : readScalar ((bool false).bytes ++ rest) =
        (expect "false" ((bool false).bytes ++ rest)).bind fun r => some (bool false, r) := rfl
      rw [word, expect_of_encode encode_false]
      rfl
  | number n =>
    have read := h n (List.mem_singleton.mpr rfl)
    obtain ⟨taken, left⟩ := split_number (Number.isNumberChar_of_read? read).2 stops
    have whole : readNumber ((number n).bytes ++ rest) = some (n, rest) := by
      unfold bytes
      rw [chars, readNumber, taken, left, read]
      rfl
    obtain ⟨b, bs, written, byte⟩ := bytes_number read
    rw [written, List.cons_append] at whole ⊢
    rw [readScalar_eq_readNumber _ byte, whole]
    rfl
  | text s =>
    rw [bytes_text, List.cons_append]
    show (readText (bytesOfText s ++ rest)).bind _ = _
    rw [readText_bytesOfText]
    rfl
  | list _ => cases scalar
  | record _ => cases scalar

/-! ## Lists and records -/

/-- A field with a new name goes to the end. -/
theorem putField_of_not_mem {name : String} {fields : List (String × Document)}
    (h : name ∉ fields.map Prod.fst) (v : Document) :
    putField name v fields = fields ++ [(name, v)] := by
  induction fields with
  | nil => rfl
  | cons f fs ih =>
    have head : f.1 ≠ name := fun eq => h (eq ▸ List.mem_cons_self)
    have tail : name ∉ fs.map Prod.fst := fun mem => h (List.mem_cons_of_mem _ mem)
    rw [putField, if_neg head, ih tail, List.cons_append]

/-- Fields with distinct names are all kept. -/
theorem recordOf_of_nodup {fields : List (String × Document)}
    (h : (fields.map Prod.fst).Nodup) : recordOf fields = record fields := by
  suffices ∀ front : List (String × Document), ((front ++ fields).map Prod.fst).Nodup →
      fields.foldl (fun acc f => putField f.1 f.2 acc) front = front ++ fields from
    congrArg record (this [] h)
  clear h
  induction fields with
  | nil => exact fun front _ => (List.append_nil front).symm
  | cons f fs ih =>
    intro front nodup
    have split : front ++ f :: fs = front ++ [f] ++ fs := List.append_cons front f fs
    have fresh : f.1 ∉ front.map Prod.fst := by
      rw [List.map_append, List.map_cons] at nodup
      exact fun mem => (List.nodup_append.mp nodup).2.2 _ mem _ List.mem_cons_self rfl
    rw [split] at nodup ⊢
    rw [List.foldl_cons, putField_of_not_mem fresh, ih _ nodup]

/-- The document that a reader with this much room makes of the bytes of a document. -/
def within (room : Nat) (d : Document) : Option Document := if d.depth ≤ room then some d else none

/-- A list nests within a room if its items nest within one level less. -/
theorem mapM_within (room : Nat) (items : List Document) :
    (items.mapM (within room)).map list = within (room + 1) (list items) := by
  by_cases h : (list items).depth ≤ room + 1
  · have each := depth_list_le_iff.mp h
    rw [within, if_pos h, mapM_some (f := within room) (g := id) fun x mem => if_pos (each x mem),
      List.map_id]
    rfl
  · have deep : ∃ x ∈ items, within room x = none := by
      rw [depth_list_le_iff] at h
      obtain ⟨x, hx⟩ := Classical.not_forall.mp h
      obtain ⟨mem, deep⟩ := Classical.not_imp.mp hx
      exact ⟨x, mem, if_neg deep⟩
    rw [within, if_neg h, mapM_none deep]
    rfl

/-- A record nests within a room if its values nest within one level less. -/
theorem mapM_within_fields (room : Nat) {fields : List (String × Document)}
    (nodup : (fields.map Prod.fst).Nodup) :
    (fields.mapM fun f => (within room f.2).map fun v => (f.1, v)).map recordOf =
      within (room + 1) (record fields) := by
  by_cases h : (record fields).depth ≤ room + 1
  · have each : ∀ f ∈ fields, ((within room f.2).map fun v => (f.1, v)) = some (id f) := by
      intro f mem
      rw [within, if_pos (depth_record_le_iff.mp h f mem)]
      rfl
    rw [within, if_pos h, mapM_some each, List.map_id]
    exact congrArg some (recordOf_of_nodup nodup)
  · have deep : ∃ f ∈ fields, ((within room f.2).map fun v => (f.1, v)) = none := by
      rw [depth_record_le_iff] at h
      obtain ⟨f, hf⟩ := Classical.not_forall.mp h
      obtain ⟨mem, deep⟩ := Classical.not_imp.mp hf
      exact ⟨f, mem, by rw [within, if_neg deep]; rfl⟩
    rw [within, if_neg h, mapM_none deep]
    rfl

theorem bytes_list (items : List Document) :
    ∃ bytes, (list items).bytes = openBracket :: bytes := by
  cases items with
  | nil => exact ⟨_, bytes_list_nil⟩
  | cons x xs => exact ⟨_, bytes_list_cons x xs⟩

theorem bytes_record (fields : List (String × Document)) :
    ∃ bytes, (record fields).bytes = openBrace :: bytes := by
  cases fields with
  | nil => exact ⟨_, bytes_record_nil⟩
  | cons f fs => exact ⟨_, bytes_record_cons f fs⟩

theorem readValue_list {room : Nat} {bytes rest : Bytes} :
    readValue (room + 1) (openBracket :: bytes ++ rest) =
      (readList (readValue room) (bytes ++ rest)).map fun r => (list r.1, r.2) := by
  exact Option.map_eq_bind.symm

theorem readValue_record {room : Nat} {bytes rest : Bytes} :
    readValue (room + 1) (openBrace :: bytes ++ rest) =
      (readRecord readText (readValue room) (bytes ++ rest)).map fun r => (recordOf r.1, r.2) := by
  exact Option.map_eq_bind.symm

/-- No list and no record is a scalar. -/
theorem readValue_zero {b : UInt8} (h : b = openBracket ∨ b = openBrace) (rest : Bytes) :
    readValue 0 (b :: rest) = none := by
  rcases h with rfl | rfl <;> rfl

/-- A scalar is read at every depth. -/
theorem takes_readValue_of_scalar {d : Document} (h : d.ReadsBack) (scalar : d.depth = 0)
    (room : Nat) : Takes (readValue room) d (within room d) := by
  intro rest stops
  rw [readValue_of_scalar h scalar, readScalar_bytes h scalar stops, within, scalar,
    if_pos (Nat.zero_le room)]
  rfl

/-- A written document is read back if it does not nest too deep, and refused if it does. -/
theorem takes_readValue {d : Document} (distinct : d.Distinct) (h : d.ReadsBack) (room : Nat) :
    Takes (readValue room) d (within room d) := by
  induction d generalizing room with
  | null => exact takes_readValue_of_scalar h rfl room
  | bool b => exact takes_readValue_of_scalar h rfl room
  | number n => exact takes_readValue_of_scalar h rfl room
  | text s => exact takes_readValue_of_scalar h rfl room
  | list items ih =>
    intro rest _
    obtain ⟨bytes, written⟩ := bytes_list items
    rw [written]
    cases room with
    | zero => exact readValue_zero (.inl rfl) _
    | succ room =>
      have below : ∀ x ∈ items, Takes (readValue room) x (within room x) := fun x mem =>
        ih x mem (distinct_list_iff.mp distinct x mem) (readsBack_list_iff.mp h x mem) room
      have starts : ∀ x ∈ items, x.Starts := fun x mem => (readsBack_list_iff.mp h x mem).starts
      rw [readValue_list, readList_bytes starts below written, ← mapM_within]
      cases items.mapM (within room) <;> rfl
  | record fields ih =>
    intro rest _
    obtain ⟨nodup, distinct⟩ := distinct_record_iff.mp distinct
    obtain ⟨bytes, written⟩ := bytes_record fields
    rw [written]
    cases room with
    | zero => exact readValue_zero (.inr rfl) _
    | succ room =>
      have below : ∀ f ∈ fields, Takes (readValue room) f.2 (within room f.2) := fun f mem =>
        ih f mem (distinct f mem) (readsBack_record_iff.mp h f mem) room
      rw [readValue_record, readRecord_bytes readText_bytesOfText below written,
        ← mapM_within_fields room nodup]
      cases fields.mapM fun f => (within room f.2).map fun v => (f.1, v) <;> rfl

/-- A document is read back from its bytes if it does not nest too deep, and refused if it does. -/
theorem readWithin?_bytes {d : Document} (distinct : d.Distinct) (h : d.ReadsBack) (room : Nat) :
    readWithin? room d.bytes = within room d := by
  have read := takes_readValue distinct h room [] stops_nil
  rw [List.append_nil] at read
  rw [readWithin?, read]
  cases within room d <;> rfl

end SurveyDispatch.Document
