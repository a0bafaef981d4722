import SurveyDispatch.Proofs.Document.Written

/-!
# Reading sequences

Items and fields are read by a reader for their parts.  `Document.Takes` says what a reader makes of
the bytes of a document.  From this it follows what `readList` and `readRecord` make of the bytes of
all items and fields: what `List.mapM` makes of the documents.

The same statements serve the reader of values, which may refuse an item, and the two ways of
skipping values.
-/

namespace SurveyDispatch.Document

open Ascii Utf8

/-- What may follow a document: nothing that could be part of a number. -/
def Stops (rest : Bytes) : Prop := ∀ b ∈ rest.head?, isNumberByte b = false

theorem stops_nil : Stops [] := nofun

theorem stops_cons {b : UInt8} (rest : Bytes) (h : isNumberByte b = false) : Stops (b :: rest) := by
  rintro _ ⟨⟩
  exact h

/-- An item is followed by a comma or the closing bracket. -/
theorem stops_bytesOfItems (items : List Document) (rest : Bytes) :
    Stops (bytesOfItems items ++ rest) := by
  cases items with
  | nil => exact stops_cons _ (by decide)
  | cons x xs =>
    rw [bytesOfItems_cons, List.cons_append]
    exact stops_cons _ (by decide)

/-- A field is followed by a comma or the closing brace. -/
theorem stops_bytesOfFields (fields : List (String × Document)) (rest : Bytes) :
    Stops (bytesOfFields fields ++ rest) := by
  cases fields with
  | nil => exact stops_cons _ (by decide)
  | cons f fs =>
    rw [bytesOfFields_cons, List.cons_append]
    exact stops_cons _ (by decide)

theorem skipBlanks_cons {b : UInt8} (rest : Bytes) (h : isBlank b = false) :
    skipBlanks (b :: rest) = b :: rest := by
  unfold skipBlanks
  exact List.dropWhile_cons_of_neg (by rw [h]; exact Bool.false_ne_true)

/-- The bytes of a document start with neither a blank nor a closing bracket. -/
def Starts (d : Document) : Prop :=
  ∃ b rest, d.bytes = b :: rest ∧ isBlank b = false ∧ b ≠ closeBracket

/-- A reader makes a value of the bytes of a document, or refuses them. -/
def Takes {α : Type} (item : Bytes → Option (α × Bytes)) (d : Document) (value : Option α) : Prop :=
  ∀ rest, Stops rest → item (d.bytes ++ rest) = value.map fun a => (a, rest)

variable {α κ : Type} {item : Bytes → Option (α × Bytes)} {value : Document → Option α}

/-! ## Items -/

/-- There are more bytes than items, so that the number of bytes is enough fuel. -/
theorem length_lt_bytesOfItems (items : List Document) :
    items.length < (bytesOfItems items).length := by
  induction items with
  | nil => exact Nat.one_pos
  | cons x xs ih =>
    rw [bytesOfItems_cons, List.length_cons, List.length_cons, List.length_append]
    omega

theorem readItems_none {fuel : Nat} {bytes : Bytes} (h : item bytes = none) :
    readItems item (fuel + 1) bytes = none := by
  rw [readItems, h]
  rfl

/-- An item in front of the closing bracket is the last one. -/
theorem readItems_last {fuel : Nat} {bytes rest : Bytes} {a : α}
    (h : item bytes = some (a, closeBracket :: rest)) :
    readItems item (fuel + 1) bytes = some ([a], rest) := by
  rw [readItems, h]
  rfl

/-- An item in front of a comma is followed by others. -/
theorem readItems_more {fuel : Nat} {bytes rest : Bytes} {a : α}
    (h : item bytes = some (a, comma :: rest)) :
    readItems item (fuel + 1) bytes =
      (readItems item fuel rest).map fun r => (a :: r.1, r.2) := by
  rw [readItems, h]
  exact Option.map_eq_bind.symm

/-- Written items are read back one by one, if the fuel is enough for all of them. -/
theorem readItems_bytes {x : Document} {xs : List Document} {fuel : Nat}
    (h : ∀ y ∈ x :: xs, Takes item y (value y)) (enough : xs.length < fuel) (rest : Bytes) :
    readItems item fuel (x.bytes ++ (bytesOfItems xs ++ rest)) =
      ((x :: xs).mapM value).map fun items => (items, rest) := by
  induction xs generalizing x fuel with
  | nil =>
    obtain ⟨fuel, rfl⟩ := Nat.exists_eq_succ_of_ne_zero (Nat.ne_of_gt enough)
    have first := h x List.mem_cons_self _ (stops_bytesOfItems [] rest)
    cases hx : value x with
    | none =>
      rw [hx] at first
      rw [readItems_none first, List.mapM_cons, hx]
      rfl
    | some a =>
      rw [hx] at first
      rw [readItems_last first, List.mapM_cons, hx]
      rfl
  | cons y ys ih =>
    obtain ⟨fuel, rfl⟩ := Nat.exists_eq_succ_of_ne_zero (Nat.ne_of_gt (Nat.zero_lt_of_lt enough))
    have first := h x List.mem_cons_self _ (stops_bytesOfItems (y :: ys) rest)
    have later := ih (fun z mem => h z (List.mem_cons_of_mem x mem)) (Nat.lt_of_succ_lt_succ enough)
    cases hx : value x with
    | none =>
      rw [hx] at first
      rw [readItems_none first, List.mapM_cons, hx]
      rfl
    | some a =>
      rw [hx, bytesOfItems_cons, List.cons_append, List.append_assoc] at first
      rw [bytesOfItems_cons, List.cons_append, List.append_assoc, readItems_more first, later,
        List.mapM_cons (a := x), hx]
      cases (y :: ys).mapM value <;> rfl

/-- The items of a list after the opening bracket. -/
theorem readList_bytes {items : List Document} (starts : ∀ x ∈ items, x.Starts)
    (h : ∀ x ∈ items, Takes item x (value x)) {bytes : Bytes}
    (written : (list items).bytes = openBracket :: bytes) (rest : Bytes) :
    readList item (bytes ++ rest) = (items.mapM value).map fun items => (items, rest) := by
  cases items with
  | nil =>
    cases written
    rfl
  | cons x xs =>
    rw [bytes_list_cons] at written
    cases written
    obtain ⟨b, bs, front, blank, ne⟩ := starts x List.mem_cons_self
    have enough : xs.length < (x.bytes ++ (bytesOfItems xs ++ rest)).length + 1 := by
      have := length_lt_bytesOfItems xs
      simp only [List.length_append]
      omega
    have read := readItems_bytes h enough rest
    rw [List.append_assoc, readList]
    rw [front, List.cons_append] at read ⊢
    rw [skipBlanks_cons _ blank]
    split
    next eq => exact absurd (List.head_eq_of_cons_eq eq) ne
    next => exact read

/-! ## Fields -/

section

variable {value : String × Document → Option α} {name : Bytes → Option (κ × Bytes)}
  {key : String → κ}
  (hname : ∀ s rest, name (bytesOfText s ++ rest) = some (key s, rest))

include hname

omit hname in
/-- A field is a name and a colon in front of its value. -/
theorem readField_eq {bytes rest : Bytes} {n : κ} (h : name bytes = some (n, colon :: rest)) :
    readField name item (quote :: bytes) = (item rest).map fun r => ((n, r.1), r.2) := by
  show (name bytes).bind _ = _
  rw [h]
  exact Option.map_eq_bind.symm

/-- A written field is read back if its value is. -/
theorem readField_bytes {f : String × Document} {v : Option α} (h : Takes item f.2 v)
    {rest : Bytes} (stops : Stops rest) :
    readField name item (bytesOfField f ++ rest) = v.map fun a => ((key f.1, a), rest) := by
  rw [bytesOfField, List.cons_append, List.cons_append, List.append_assoc, List.cons_append,
    readField_eq (hname _ _), h rest stops]
  cases v <;> rfl

omit hname in
theorem readFields_none {fuel : Nat} {bytes : Bytes} (h : readField name item bytes = none) :
    readFields name item (fuel + 1) bytes = none := by
  rw [readFields, h]
  rfl

omit hname in
/-- A field in front of the closing brace is the last one. -/
theorem readFields_last {fuel : Nat} {bytes rest : Bytes} {f : κ × α}
    (h : readField name item bytes = some (f, closeBrace :: rest)) :
    readFields name item (fuel + 1) bytes = some ([f], rest) := by
  rw [readFields, h]
  rfl

omit hname in
/-- A field in front of a comma is followed by others. -/
theorem readFields_more {fuel : Nat} {bytes rest : Bytes} {f : κ × α}
    (h : readField name item bytes = some (f, comma :: rest)) :
    readFields name item (fuel + 1) bytes =
      (readFields name item fuel rest).map fun r => (f :: r.1, r.2) := by
  rw [readFields, h]
  exact Option.map_eq_bind.symm

omit hname in
/-- There are more bytes than fields, so that the number of bytes is enough fuel. -/
theorem length_lt_bytesOfFields (fields : List (String × Document)) :
    fields.length < (bytesOfFields fields).length := by
  induction fields with
  | nil => exact Nat.one_pos
  | cons f fs ih =>
    rw [bytesOfFields_cons, List.length_cons, List.length_cons, List.length_append]
    omega

/-- Written fields are read back one by one, if the fuel is enough for all of them. -/
theorem readFields_bytes {f : String × Document} {fs : List (String × Document)} {fuel : Nat}
    (h : ∀ g ∈ f :: fs, Takes item g.2 (value g)) (enough : fs.length < fuel) (rest : Bytes) :
    readFields name item fuel (bytesOfField f ++ (bytesOfFields fs ++ rest)) =
      ((f :: fs).mapM fun g => (value g).map fun a => (key g.1, a)).map
        fun fields => (fields, rest) := by
  induction fs generalizing f fuel with
  | nil =>
    obtain ⟨fuel, rfl⟩ := Nat.exists_eq_succ_of_ne_zero (Nat.ne_of_gt enough)
    have first := readField_bytes hname (h f List.mem_cons_self) (stops_bytesOfFields [] rest)
    cases hf : value f with
    | none =>
      rw [hf] at first
      rw [readFields_none first, List.mapM_cons, hf]
      rfl
    | some a =>
      rw [hf] at first
      rw [readFields_last first, List.mapM_cons, hf]
      rfl
  | cons g gs ih =>
    obtain ⟨fuel, rfl⟩ := Nat.exists_eq_succ_of_ne_zero (Nat.ne_of_gt (Nat.zero_lt_of_lt enough))
    have first :=
      readField_bytes hname (h f List.mem_cons_self) (stops_bytesOfFields (g :: gs) rest)
    have later := ih (fun e mem => h e (List.mem_cons_of_mem f mem)) (Nat.lt_of_succ_lt_succ enough)
    cases hf : value f with
    | none =>
      rw [hf] at first
      rw [readFields_none first, List.mapM_cons, hf]
      rfl
    | some a =>
      rw [hf, bytesOfFields_cons, List.cons_append, List.append_assoc] at first
      rw [bytesOfFields_cons, List.cons_append, List.append_assoc, readFields_more first, later,
        List.mapM_cons (a := f), hf]
      cases (g :: gs).mapM fun g => (value g).map fun a => (key g.1, a) <;> rfl

/-- The fields of a record after the opening brace. -/
theorem readRecord_bytes {fields : List (String × Document)}
    (h : ∀ f ∈ fields, Takes item f.2 (value f)) {bytes : Bytes}
    (written : (record fields).bytes = openBrace :: bytes) (rest : Bytes) :
    readRecord name item (bytes ++ rest) =
      (fields.mapM fun f => (value f).map fun a => (key f.1, a)).map
        fun fields => (fields, rest) := by
  cases fields with
  | nil =>
    cases written
    rfl
  | cons f fs =>
    rw [bytes_record_cons] at written
    cases written
    have enough : fs.length < (bytesOfField f ++ (bytesOfFields fs ++ rest)).length + 1 := by
      have := length_lt_bytesOfFields fs
      simp only [List.length_append]
      omega
    have read := readFields_bytes hname h enough rest
    rw [List.append_assoc, readRecord]
    rw [bytesOfField, List.cons_append, List.cons_append] at read ⊢
    rw [skipBlanks_cons _ (by decide)]
    exact read

end

/-! ## Refused parts -/

theorem mapM_some {β γ : Type} {f : β → Option γ} {g : β → γ} {l : List β}
    (h : ∀ x ∈ l, f x = some (g x)) : l.mapM f = some (l.map g) := by
  induction l with
  | nil => rfl
  | cons x xs ih =>
    obtain ⟨head, tail⟩ := List.forall_mem_cons.mp h
    rw [List.mapM_cons, head, ih tail]
    rfl

theorem mapM_none {β γ : Type} {f : β → Option γ} {l : List β} (h : ∃ x ∈ l, f x = none) :
    l.mapM f = none := by
  induction l with
  | nil =>
    obtain ⟨_, mem, -⟩ := h
    cases mem
  | cons x xs ih =>
    obtain ⟨y, mem, refused⟩ := h
    rw [List.mapM_cons]
    cases hx : f x with
    | none => rfl
    | some a =>
      cases mem with
      | head =>
        rw [hx] at refused
        cases refused
      | tail _ mem =>
        rw [ih ⟨y, mem, refused⟩]
        rfl

end SurveyDispatch.Document
