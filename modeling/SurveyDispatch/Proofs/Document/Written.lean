import SurveyDispatch.Document.Outline
import SurveyDispatch.Document.Writer
import SurveyDispatch.Proofs.Text.RoundTrips

/-!
# Written documents

The bytes of a document (`Document.bytes`) are those of its parts with punctuation between them.
Here are the equations for this, and what readers make of the bytes of a text.

A character of a text is written in one of three ways (`Document.WrittenChar`): by its own bytes, by
a short escape or by a numbered escape.  The reader and the skipper of texts are followed through
the three ways once, for a character at the front.
-/

namespace SurveyDispatch.Document

open Ascii Utf8

/-! ## Bytes of documents -/

/-- The bytes of the compact form of a document. -/
def bytes (d : Document) : Bytes := encodeChars d.chars

/-- The bytes of a text after its opening quote. -/
def bytesOfText (s : String) : Bytes := encodeChars (s.toList.flatMap writeChar) ++ [quote]

/-- The bytes of the items after the first one, with the closing bracket. -/
def bytesOfItems (items : List Document) : Bytes := encodeChars (charsOfItems items)

/-- The bytes of a field. -/
def bytesOfField (f : String × Document) : Bytes :=
  quote :: bytesOfText f.1 ++ colon :: f.2.bytes

/-- The bytes of the fields after the first one, with the closing brace. -/
def bytesOfFields (fields : List (String × Document)) : Bytes :=
  encodeChars (charsOfFields fields)

theorem encodeChars_writeText (s : String) :
    encodeChars (writeText s) = quote :: bytesOfText s := by
  rw [writeText, List.cons_append, encodeChars_cons, encodeChars_append]
  rfl

theorem bytes_text (s : String) : (text s).bytes = quote :: bytesOfText s :=
  encodeChars_writeText s

theorem bytes_list_nil : (list []).bytes = [openBracket, closeBracket] := rfl

/-- A list with items is an opening bracket, the first item and the others. -/
theorem bytes_list_cons (x : Document) (xs : List Document) :
    (list (x :: xs)).bytes = openBracket :: (x.bytes ++ bytesOfItems xs) := by
  rw [bytes, chars, List.cons_append, encodeChars_cons, encodeChars_append]
  rfl

/-- Each further item stands behind a comma. -/
theorem bytesOfItems_cons (x : Document) (xs : List Document) :
    bytesOfItems (x :: xs) = comma :: (x.bytes ++ bytesOfItems xs) := by
  rw [bytesOfItems, charsOfItems, List.cons_append, encodeChars_cons, encodeChars_append]
  rfl

theorem bytes_record_nil : (record []).bytes = [openBrace, closeBrace] := rfl

theorem encodeChars_field (f : String × Document) (rest : List Char) :
    encodeChars (writeText f.1 ++ ':' :: f.2.chars ++ rest) =
      bytesOfField f ++ encodeChars rest := by
  rw [encodeChars_append, encodeChars_append, encodeChars_writeText, encodeChars_cons]
  rfl

/-- A record with fields is an opening brace, the first field and the others. -/
theorem bytes_record_cons (f : String × Document) (fs : List (String × Document)) :
    (record (f :: fs)).bytes = openBrace :: (bytesOfField f ++ bytesOfFields fs) := by
  rw [bytes, chars, List.cons_append, List.cons_append, encodeChars_cons, encodeChars_field]
  rfl

/-- Each further field stands behind a comma. -/
theorem bytesOfFields_cons (f : String × Document) (fs : List (String × Document)) :
    bytesOfFields (f :: fs) = comma :: (bytesOfField f ++ bytesOfFields fs) := by
  rw [bytesOfFields, charsOfFields, List.cons_append, List.cons_append, encodeChars_cons,
    encodeChars_field]
  rfl

/-! ## Characters of texts -/

/-- A byte that stands for itself inside a text. -/
def IsPlain (b : UInt8) : Prop := b ≠ quote ∧ b ≠ backslash ∧ ¬ b < 0x20

/-- The bytes that a character is written as inside a text. -/
inductive WrittenChar (c : Char) : Bytes → Prop where
  /-- Its own bytes. -/
  | plain : (∀ b ∈ encodeChar c, IsPlain b) → WrittenChar c (encodeChar c)
  /-- A backslash and a byte. -/
  | short {e b : UInt8} : e ≠ letterU → shortEscape? e = some b → encodeChar c = [b] →
      WrittenChar c [backslash, e]
  /-- A backslash and four digits, of which the first two are zeros. -/
  | numbered {h l : UInt8} {x y : Nat} : hexValue? h = some x → hexValue? l = some y →
      x * 16 + y = c.toNat → c.toNat < 0x20 →
      WrittenChar c [backslash, letterU, 0x30, 0x30, h, l]

/-- The digit that a value is written as is read as that value. -/
theorem hexValue?_hexDigit {n : Nat} (h : n < 16) :
    encodeChar (hexDigit n) = [.ofNat (hexDigit n).toNat] ∧
      hexValue? (.ofNat (hexDigit n).toNat) = some n := by
  have all : ∀ n < 16, encodeChar (hexDigit n) = [.ofNat (hexDigit n).toNat] ∧
    hexValue? (.ofNat (hexDigit n).toNat) = some n := by decide
  exact all n h

theorem eq_ofNat_of_toNat_eq {c : Char} {n : Nat} (h : c.toNat = n) : c = Char.ofNat n := by
  rw [← h, Char.ofNat_toNat]

/-- The bytes of a character are plain, unless it has to be escaped. -/
theorem isPlain_of_mem_encodeChar {c : Char} (quoted : c ≠ '"') (escaped : c ≠ '\\')
    (control : ¬ c.toNat < 0x20) : ∀ b ∈ encodeChar c, IsPlain b := by
  intro b mem
  have differ : ∀ d : Char, c ≠ d → c.toNat ≠ d.toNat := fun d ne eq => ne (Char.toNat_inj.mp eq)
  have quoted' := differ '"' quoted
  have escaped' := differ '\\' escaped
  have value : b.toNat = c.toNat ∨ 0x80 ≤ b.toNat :=
    (toNat_of_mem_encodeChar mem).imp_left And.right
  have facts : b.toNat ≠ 0x22 ∧ b.toNat ≠ 0x5C ∧ ¬ b.toNat < 0x20 := by
    have : '"'.toNat = 0x22 := rfl
    have : '\\'.toNat = 0x5C := rfl
    omega
  refine ⟨?_, ?_, ?_⟩
  · rintro rfl
    exact facts.1 rfl
  · rintro rfl
    exact facts.2.1 rfl
  · exact fun h => facts.2.2 (UInt8.lt_iff_toNat_lt.mp h)

/-- Every character is written in one of the forms. -/
theorem writtenChar (c : Char) : WrittenChar c (encodeChars (writeChar c)) := by
  have short : ∀ (e b : UInt8) {cs : List Char}, encodeChars cs = [backslash, e] → e ≠ letterU →
      shortEscape? e = some b → encodeChar c = [b] → WrittenChar c (encodeChars cs) := by
    intro e b cs eq ne escape own
    rw [eq]
    exact .short ne escape own
  unfold writeChar
  split
  next eq =>
    subst eq
    exact short quote quote rfl (by decide) (by decide) rfl
  next quoted =>
    split
    next eq =>
      subst eq
      exact short backslash backslash rfl (by decide) (by decide) rfl
    next escaped =>
      split
      next eq =>
        cases eq_ofNat_of_toNat_eq eq
        exact short 0x62 0x08 rfl (by decide) (by decide) rfl
      next =>
        split
        next eq =>
          cases eq_ofNat_of_toNat_eq eq
          exact short 0x66 0x0C rfl (by decide) (by decide) rfl
        next =>
          split
          next eq =>
            subst eq
            exact short 0x6E lineFeed rfl (by decide) (by decide) rfl
          next =>
            split
            next eq =>
              subst eq
              exact short 0x72 carriageReturn rfl (by decide) (by decide) rfl
            next =>
              split
              next eq =>
                subst eq
                exact short 0x74 tab rfl (by decide) (by decide) rfl
              next =>
                split
                next control =>
                  obtain ⟨high, x⟩ := hexValue?_hexDigit (n := c.toNat / 16) (by omega)
                  obtain ⟨low, y⟩ := hexValue?_hexDigit (n := c.toNat % 16) (by omega)
                  simp only [encodeChars_cons, high, low]
                  exact .numbered x y (by omega) control
                next control =>
                  rw [encodeChars_cons]
                  exact (List.append_nil (encodeChar c)).symm ▸
                    .plain (isPlain_of_mem_encodeChar quoted escaped control)

/-! ## Reading texts -/

theorem textBytes_backslash (rest : Bytes) :
    textBytes .plain (backslash :: rest) = textBytes .escape rest := by
  rw [textBytes, if_neg (by decide), if_pos rfl]

/-- A hexadecimal digit of an escape adds to its value. -/
theorem textBytes_digit {first : Option Nat} {more value x : Nat} {b : UInt8} (rest : Bytes)
    (h : hexValue? b = some x) :
    textBytes (.hex first (more + 1) value) (b :: rest) =
      textBytes (.hex first more (value * 16 + x)) rest := by
  rw [textBytes, h]
  rfl

/-- The last digit of a numbered escape that is no surrogate. -/
theorem textBytes_lastDigit {value x : Nat} {b : UInt8} {c : Char} (rest : Bytes)
    (h : hexValue? b = some x) (eq : value * 16 + x = c.toNat) (low : c.toNat < 0x20) :
    textBytes (.hex none 0 value) (b :: rest) =
      (textBytes .plain rest).map fun r => (encodeChar c ++ r.1, r.2) := by
  have first : isFirstSurrogate c.toNat = false := by simp [isFirstSurrogate]; omega
  have second : isSecondSurrogate c.toNat = false := by simp [isSecondSurrogate]; omega
  rw [textBytes, h]
  simp only [Option.bind_eq_bind, Option.bind_some, eq, endOfHex?, first, second,
    Bool.false_eq_true, if_false, Char.ofNat_toNat]
  cases textBytes .plain rest <;> rfl

/-- Plain bytes are taken as they are. -/
theorem textBytes_plain {front : Bytes} (h : ∀ b ∈ front, IsPlain b) (rest : Bytes) :
    textBytes .plain (front ++ rest) =
      (textBytes .plain rest).map fun r => (front ++ r.1, r.2) := by
  induction front with
  | nil => exact Option.map_id'.symm
  | cons b bs ih =>
    obtain ⟨⟨quoted, escaped, control⟩, tail⟩ := List.forall_mem_cons.mp h
    rw [List.cons_append, textBytes, if_neg quoted, if_neg escaped, if_neg control, ih tail]
    cases textBytes .plain rest <;> rfl

/-- A written character is read. -/
theorem WrittenChar.textBytes {c : Char} {front : Bytes} (h : WrittenChar c front) (rest : Bytes) :
    textBytes .plain (front ++ rest) =
      (textBytes .plain rest).map fun r => (encodeChar c ++ r.1, r.2) := by
  cases h with
  | plain all => exact textBytes_plain all rest
  | short ne escape own =>
    rw [List.cons_append, textBytes_backslash, List.singleton_append, Document.textBytes,
      if_neg ne, escape, own]
    cases Document.textBytes .plain rest <;> rfl
  | numbered high low eq control =>
    rw [List.cons_append, textBytes_backslash, List.cons_append, Document.textBytes, if_pos rfl]
    have zero : hexValue? 0x30 = some 0 := rfl
    simp only [List.cons_append, List.nil_append]
    rw [textBytes_digit _ zero, textBytes_digit _ zero, textBytes_digit _ high]
    exact textBytes_lastDigit rest low (by omega) control

/-- The text after an opening quote is read back. -/
theorem readText_bytesOfText (s : String) (rest : Bytes) :
    readText (bytesOfText s ++ rest) = some (s, rest) := by
  have content : ∀ cs : List Char,
      textBytes .plain (encodeChars (cs.flatMap writeChar) ++ quote :: rest) =
        some (encodeChars cs, rest) := by
    intro cs
    induction cs with
    | nil =>
      rw [List.flatMap_nil, encodeChars, List.flatMap_nil, List.nil_append, textBytes, if_pos rfl]
    | cons c cs ih =>
      rw [List.flatMap_cons, encodeChars_append, List.append_assoc, (writtenChar c).textBytes, ih,
        encodeChars_cons]
      rfl
  rw [bytesOfText, List.append_assoc, List.singleton_append, readText, content]
  simp only [Option.bind_eq_bind, Option.bind_some]
  rw [← encode, decode_encode]
  rfl

/-! ## Skipping texts -/

theorem skipTextFrom_backslash (rest : Bytes) :
    skipTextFrom 0 false (backslash :: rest) = skipTextFrom 0 true rest := by
  rw [skipTextFrom, if_neg (by decide), if_pos rfl]

theorem skipTextFrom_digit {more x : Nat} {b : UInt8} (rest : Bytes) (h : hexValue? b = some x) :
    skipTextFrom (more + 1) false (b :: rest) = skipTextFrom more false rest := by
  rw [skipTextFrom, h]
  rfl

/-- Plain bytes are skipped. -/
theorem skipTextFrom_plain {front : Bytes} (h : ∀ b ∈ front, IsPlain b) (rest : Bytes) :
    skipTextFrom 0 false (front ++ rest) = skipTextFrom 0 false rest := by
  induction front with
  | nil => rfl
  | cons b bs ih =>
    obtain ⟨⟨quoted, escaped, control⟩, tail⟩ := List.forall_mem_cons.mp h
    rw [List.cons_append, skipTextFrom, if_neg quoted, if_neg escaped, if_neg control, ih tail]

/-- A written character is skipped. -/
theorem WrittenChar.skipTextFrom {c : Char} {front : Bytes} (h : WrittenChar c front)
    (rest : Bytes) : skipTextFrom 0 false (front ++ rest) = skipTextFrom 0 false rest := by
  cases h with
  | plain all => exact skipTextFrom_plain all rest
  | short ne escape own =>
    rw [List.cons_append, skipTextFrom_backslash, List.singleton_append, Document.skipTextFrom,
      if_neg ne, escape]
    rfl
  | numbered high low _ _ =>
    rw [List.cons_append, skipTextFrom_backslash, List.cons_append, Document.skipTextFrom,
      if_pos rfl]
    have zero : hexValue? 0x30 = some 0 := rfl
    simp only [List.cons_append, List.nil_append]
    rw [skipTextFrom_digit _ zero, skipTextFrom_digit _ zero, skipTextFrom_digit _ high,
      skipTextFrom_digit _ low]

/-- The text after an opening quote is skipped. -/
theorem skipText_bytesOfText (s : String) (rest : Bytes) :
    skipText (bytesOfText s ++ rest) = some ((), rest) := by
  have content : ∀ cs : List Char,
      skipTextFrom 0 false (encodeChars (cs.flatMap writeChar) ++ quote :: rest) = some rest := by
    intro cs
    induction cs with
    | nil =>
      rw [List.flatMap_nil, encodeChars, List.flatMap_nil, List.nil_append, skipTextFrom,
        if_pos rfl]
    | cons c cs ih =>
      rw [List.flatMap_cons, encodeChars_append, List.append_assoc, (writtenChar c).skipTextFrom,
        ih]
  rw [bytesOfText, List.append_assoc, List.singleton_append, skipText, content]
  rfl

end SurveyDispatch.Document
