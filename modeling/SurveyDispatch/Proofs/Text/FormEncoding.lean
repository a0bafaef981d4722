import SurveyDispatch.Proofs.Text.RoundTrips
import SurveyDispatch.Text.FormEncoding

/-!
# Form encoding loses nothing

A byte is encoded in one of three ways (`FormEncoding.Encoded`): as a plus sign, as itself or as an
escape.  The three can be told apart by their first character, if the plus sign and the percent sign
are not kept.  So bytes are decoded one by one (`FormEncoding.decode_encode`).

Encodings that keep different characters are turned into each other by replacing texts.  Where an
escape is replaced by its character, that character is kept (`FormEncoding.replaceAll_escape`), and
where a kept character is replaced by its escape, it is kept no longer
(`FormEncoding.replaceAll_kept`).  Neither replacement can hit anything else: a percent sign only
stands at the front of an escape, and a kept character that is no hexadecimal digit stands for
itself.
-/

namespace SurveyDispatch

/-! ## Replacing a text -/

namespace Text

/-- Replaces a pattern by a text from the left.  The first number counts the characters that still
belong to the last occurrence. -/
def replaceFrom (pattern text : List Char) : Nat → List Char → List Char
  | _, [] => []
  | behind + 1, _ :: rest => replaceFrom pattern text behind rest
  | 0, c :: rest =>
    if pattern.isPrefixOf (c :: rest) then
      text ++ replaceFrom pattern text (pattern.length - 1) rest
    else c :: replaceFrom pattern text 0 rest

/-- Replaces every occurrence of a pattern that is not empty.  Occurrences do not overlap. -/
def replaceAll (pattern text cs : List Char) : List Char := replaceFrom pattern text 0 cs

variable {p c : Char} {ps text rest : List Char}

theorem replaceFrom_append (pattern text front rest : List Char) :
    replaceFrom pattern text front.length (front ++ rest) = replaceAll pattern text rest := by
  induction front with
  | nil => rfl
  | cons c front ih => exact ih

/-- An occurrence is replaced. -/
theorem replaceAll_append :
    replaceAll (p :: ps) text (p :: ps ++ rest) = text ++ replaceAll (p :: ps) text rest := by
  have occurs : (p :: ps).isPrefixOf (p :: (ps ++ rest)) = true :=
    List.isPrefixOf_iff_prefix.mpr (List.prefix_append (p :: ps) rest)
  rw [List.cons_append, replaceAll, replaceFrom, if_pos occurs, List.length_cons,
    Nat.add_sub_cancel, replaceFrom_append]

example : replaceAll ['a', 'a'] ['b'] ['a', 'a', 'a', 'c'] = ['b', 'a', 'c'] := by decide

theorem replaceAll_cons_of_not_prefix {pattern : List Char} (h : ¬ pattern <+: c :: rest) :
    replaceAll pattern text (c :: rest) = c :: replaceAll pattern text rest := by
  rw [replaceAll, replaceFrom, if_neg (mt List.isPrefixOf_iff_prefix.mp h), replaceAll]

/-- Characters other than the first one of a pattern stay. -/
theorem replaceAll_append_of_not_mem {front : List Char} (h : p ∉ front) :
    replaceAll (p :: ps) text (front ++ rest) = front ++ replaceAll (p :: ps) text rest := by
  induction front with
  | nil => rfl
  | cons c front ih =>
    obtain ⟨ne, h⟩ := List.ne_and_not_mem_of_not_mem_cons h
    have starts : ¬ p :: ps <+: c :: (front ++ rest) := by
      intro occurs
      exact ne (List.cons_prefix_cons.mp occurs).1
    rw [List.cons_append, replaceAll_cons_of_not_prefix starts, ih h, List.cons_append]

end Text

namespace FormEncoding

open Ascii (char)
open Text (replaceAll)

/-! ## Characters -/

theorem toNat_char (b : UInt8) : (char b).toNat = b.toNat := by
  have bound := b.toNat_lt
  have valid : b.toNat.isValidChar := .inl (by omega)
  rw [char, Char.ofNat, dif_pos valid]
  rfl

theorem char_inj {a b : UInt8} : char a = char b ↔ a = b := by
  constructor
  · intro same
    have values := congrArg Char.toNat same
    rw [toNat_char, toNat_char] at values
    exact UInt8.toNat_inj.mp values
  · rintro rfl
    rfl

/-- A character of one byte stands for this byte. -/
theorem encodeChar_char {b : UInt8} (h : (char b).toNat < 0x80) :
    Utf8.encodeChar (char b) = [b] := by
  rw [Utf8.encodeChar_of_lt h, toNat_char, UInt8.ofNat_toNat]

/-- The hexadecimal digits in upper case. -/
def upperDigits : List Char := "0123456789ABCDEF".toList

theorem hexDigit_mem {n : Nat} (h : n < 16) : hexDigit n ∈ upperDigits := by
  have all : ∀ n < 16, hexDigit n ∈ upperDigits := by decide
  exact all n h

theorem hexValue?_hexDigit {n : Nat} (h : n < 16) : hexValue? (hexDigit n) = some n := by
  have all : ∀ n < 16, hexValue? (hexDigit n) = some n := by decide
  exact all n h

theorem isAlphanum_of_mem_upperDigits {c : Char} (h : c ∈ upperDigits) : c.isAlphanum = true := by
  have all : upperDigits.all Char.isAlphanum = true := by decide
  exact List.all_eq_true.mp all c h

theorem toNat_lt_of_isAlphanum {c : Char} (h : c.isAlphanum = true) : c.toNat < 0x80 := by
  rcases Bool.or_eq_true_iff.mp h with alpha | digit
  · rcases Bool.or_eq_true_iff.mp alpha with upper | lower
    · have bounds : 'A'.val ≤ c.val ∧ c.val ≤ 'Z'.val := of_decide_eq_true upper
      exact Nat.lt_of_le_of_lt (UInt32.le_iff_toNat_le.mp bounds.2) (by decide)
    · have bound : c.val ≤ 'z'.val := of_decide_eq_true (Bool.and_eq_true_iff.mp lower).2
      exact Nat.lt_of_le_of_lt (UInt32.le_iff_toNat_le.mp bound) (by decide)
  · exact Nat.lt_of_le_of_lt (Char.isDigit_iff_toNat.mp digit).2 (by decide)

/-! ## Ways to encode a byte -/

/-- The escape of a byte. -/
def escape (b : UInt8) : List Char := ['%', hexDigit (b.toNat / 16), hexDigit (b.toNat % 16)]

/-- Both digits of an escape are in upper case. -/
theorem digits_mem (b : UInt8) :
    hexDigit (b.toNat / 16) ∈ upperDigits ∧ hexDigit (b.toNat % 16) ∈ upperDigits := by
  have bound := b.toNat_lt
  exact ⟨hexDigit_mem (by omega), hexDigit_mem (by omega)⟩

theorem of_mem_escape {b : UInt8} {c : Char} (h : c ∈ escape b) : c = '%' ∨ c ∈ upperDigits := by
  obtain ⟨high, low⟩ := digits_mem b
  simp only [escape, List.mem_cons, List.not_mem_nil, or_false] at h
  rcases h with rfl | rfl | rfl
  · exact .inl rfl
  · exact .inr high
  · exact .inr low

variable {kept : Char → Bool} {b e : UInt8} {cs rest : List Char}

/-- The ways to encode a byte. -/
inductive Encoded (kept : Char → Bool) : UInt8 → List Char → Prop where
  /-- The blank is a plus sign. -/
  | blank : Encoded kept Ascii.blank ['+']
  /-- A kept character stands for itself. -/
  | kept {b : UInt8} : b ≠ Ascii.blank → kept (char b) = true → Encoded kept b [char b]
  /-- Every other byte is escaped. -/
  | escaped {b : UInt8} : b ≠ Ascii.blank → kept (char b) = false → Encoded kept b (escape b)

/-- Every byte is encoded in one of the forms. -/
theorem encoded_encodeByte (kept : Char → Bool) (b : UInt8) :
    Encoded kept b (encodeByte kept b) := by
  rw [encodeByte]
  split
  next eq =>
    subst eq
    exact .blank
  next ne =>
    split
    next keep => exact .kept ne keep
    next drop => exact .escaped ne (Bool.eq_false_iff.mpr drop)

/-- There is one way for each byte. -/
theorem Encoded.eq (h : Encoded kept b cs) : encodeByte kept b = cs := by
  cases h with
  | blank => rfl
  | kept ne keep => rw [encodeByte, if_neg ne, if_pos keep]
  | escaped ne drop => rw [encodeByte, if_neg ne, if_neg (Bool.eq_false_iff.mp drop), escape]

/-- Kept characters have one byte, and a character with a meaning of its own is not kept. -/
structure Plain (kept : Char → Bool) : Prop where
  /-- Kept characters have one byte. -/
  ascii : ∀ c, kept c = true → c.toNat < 0x80
  /-- The plus sign stands for a blank. -/
  plus : kept '+' = false
  /-- The percent sign starts an escape. -/
  percent : kept '%' = false

theorem plain_keptInQuery : Plain keptInQuery where
  ascii := by
    intro c keep
    simp only [keptInQuery, Bool.or_eq_true, beq_iff_eq] at keep
    rcases keep with (((alphanum | rfl) | rfl) | rfl) | rfl
    · exact toNat_lt_of_isAlphanum alphanum
    all_goals decide
  plus := by decide
  percent := by decide

/-- Object names keep what queries keep, with the tilde and without the star. -/
theorem keptInName_eq :
    keptInName = fun c => (keptInQuery c || c == '~') && c != '*' := by
  funext c
  by_cases star : c = '*'
  · subst star
    decide
  · simp only [keptInName, keptInQuery, bne_iff_ne.mpr star, beq_eq_false_iff_ne.mpr star,
      Bool.and_true, Bool.or_false]
    cases c == '~' <;> simp

theorem plain_keptInName : Plain keptInName where
  ascii := by
    intro c keep
    simp only [keptInName_eq, Bool.and_eq_true, Bool.or_eq_true, beq_iff_eq] at keep
    rcases keep.1 with inQuery | rfl
    · exact plain_keptInQuery.ascii c inQuery
    · decide
  plus := by decide
  percent := by decide

theorem Plain.ne_percent (h : Plain kept) {c : Char} (keep : kept c = true) : c ≠ '%' := by
  rintro rfl
  simp [h.percent] at keep

theorem Plain.ne_plus (h : Plain kept) {c : Char} (keep : kept c = true) : c ≠ '+' := by
  rintro rfl
  simp [h.plus] at keep

/-! ## Decoding -/

theorem decode_cons_of_ne {c : Char} (plus : c ≠ '+') (percent : c ≠ '%') :
    decode (c :: rest) = Utf8.encodeChar c ++ decode rest := by
  rw [decode.eq_def]
  simp [percent]

/-- An escape is decoded to its byte. -/
theorem decode_escape (b : UInt8) (rest : List Char) :
    decode (escape b ++ rest) = b :: decode rest := by
  have bound := b.toNat_lt
  have digits : b.toNat / 16 * 16 + b.toNat % 16 = b.toNat := by omega
  show decode ('%' :: hexDigit (b.toNat / 16) :: hexDigit (b.toNat % 16) :: rest) = _
  rw [decode, hexValue?_hexDigit (by omega), hexValue?_hexDigit (by omega)]
  simp [digits]

/-- A byte at the front is decoded. -/
theorem Encoded.decode (plain : Plain kept) (h : Encoded kept b cs) (rest : List Char) :
    FormEncoding.decode (cs ++ rest) = b :: FormEncoding.decode rest := by
  cases h with
  | blank => rfl
  | kept _ keep =>
    rw [List.singleton_append, decode_cons_of_ne (plain.ne_plus keep) (plain.ne_percent keep),
      encodeChar_char (plain.ascii _ keep), List.singleton_append]
  | escaped _ _ => exact decode_escape b rest

/-- What is decoded are the bytes of the text that was encoded. -/
theorem decode_encode (plain : Plain kept) (s : String) :
    decode (encode kept s) = Utf8.encode s := by
  rw [encode]
  induction Utf8.encode s with
  | nil => rfl
  | cons b rest ih =>
    rw [List.flatMap_cons, (encoded_encodeByte kept b).decode plain, ih]

/-- Texts with one encoding are equal. -/
theorem encode_inj (plain : Plain kept) {s t : String} :
    encode kept s = encode kept t ↔ s = t := by
  constructor
  · intro same
    have bytes : Utf8.encode s = Utf8.encode t := by
      rw [← decode_encode plain s, same, decode_encode plain t]
    have texts := congrArg Utf8.decode bytes
    rw [Utf8.decode_encode, Utf8.decode_encode] at texts
    exact Option.some.inj texts
  · rintro rfl
    rfl

/-! ## What encodings are made of -/

theorem Encoded.mem {c : Char} (h : Encoded kept b cs) (mem : c ∈ cs) :
    kept c = true ∨ c = '+' ∨ c = '%' ∨ c ∈ upperDigits := by
  cases h with
  | blank => exact .inr (.inl (List.mem_singleton.mp mem))
  | kept _ keep =>
    obtain rfl := List.mem_singleton.mp mem
    exact .inl keep
  | escaped _ _ => exact .inr (.inr (of_mem_escape mem))

/-- The characters of an encoding. -/
theorem of_mem_encode {c : Char} {s : String} (h : c ∈ encode kept s) :
    kept c = true ∨ c = '+' ∨ c = '%' ∨ c ∈ upperDigits := by
  obtain ⟨b, -, mem⟩ := List.mem_flatMap.mp h
  exact (encoded_encodeByte kept b).mem mem

/-- A character that is not kept and has no meaning of its own is in no encoding. -/
theorem not_mem_encode {c : Char} (drop : kept c = false) (plus : c ≠ '+') (percent : c ≠ '%')
    (digit : c ∉ upperDigits) (s : String) : c ∉ encode kept s := by
  intro mem
  simpa [drop, plus, percent, digit] using of_mem_encode mem

/-- A percent sign has two digits behind it. -/
def Escaping (cs : List Char) : Prop :=
  ∀ front rest, cs = front ++ '%' :: rest →
    ∃ high low tail, rest = high :: low :: tail ∧ high ∈ upperDigits ∧ low ∈ upperDigits

theorem escaping_nil : Escaping [] := by
  intro front rest split
  simp at split

theorem Escaping.cons {c : Char} (ne : c ≠ '%') (h : Escaping cs) : Escaping (c :: cs) := by
  intro front rest split
  cases front with
  | nil => exact absurd (List.cons.inj split).1 ne
  | cons _ front => exact h front rest (List.cons.inj split).2

theorem ne_percent_of_mem_upperDigits {c : Char} (h : c ∈ upperDigits) : c ≠ '%' := by
  rintro rfl
  revert h
  decide

theorem Encoded.escaping (plain : Plain kept) (h : Encoded kept b cs) (behind : Escaping rest) :
    Escaping (cs ++ rest) := by
  cases h with
  | blank => exact behind.cons (by decide)
  | kept _ keep => exact behind.cons (plain.ne_percent keep)
  | escaped _ _ =>
    obtain ⟨high, low⟩ := digits_mem b
    have digits : Escaping (hexDigit (b.toNat / 16) :: hexDigit (b.toNat % 16) :: rest) :=
      (behind.cons (ne_percent_of_mem_upperDigits low)).cons (ne_percent_of_mem_upperDigits high)
    intro front tail split
    cases front with
    | nil =>
      obtain ⟨-, rfl⟩ := List.cons.inj split
      exact ⟨_, _, rest, rfl, high, low⟩
    | cons _ front => exact digits front tail (List.cons.inj split).2

/-- In an encoded text, two digits in upper case follow each percent sign. -/
theorem escaping_encode (plain : Plain kept) (s : String) : Escaping (encode kept s) := by
  rw [encode]
  induction Utf8.encode s with
  | nil => exact escaping_nil
  | cons b rest ih =>
    rw [List.flatMap_cons]
    exact (encoded_encodeByte kept b).escaping plain ih

/-! ## Encodings that keep other characters -/

theorem escape_inj {a b : UInt8} : escape a = escape b ↔ a = b := by
  constructor
  · intro same
    have bytes := congrArg (fun cs => decode (cs ++ [])) same
    simp only [decode_escape] at bytes
    exact (List.cons.inj bytes).1
  · rintro rfl
    rfl

theorem escape_append (b : UInt8) (rest : List Char) :
    escape b ++ rest =
      '%' :: ([hexDigit (b.toNat / 16), hexDigit (b.toNat % 16)] ++ rest) := rfl

theorem percent_not_mem_digits (b : UInt8) :
    '%' ∉ [hexDigit (b.toNat / 16), hexDigit (b.toNat % 16)] := by
  obtain ⟨high, low⟩ := digits_mem b
  simp [(ne_percent_of_mem_upperDigits high).symm, (ne_percent_of_mem_upperDigits low).symm]

/-- No escape but the one in question is replaced, and nothing around it. -/
theorem Encoded.replaceAll_escape (plain : Plain kept) (h : Encoded kept b cs)
    (text rest : List Char) :
    replaceAll (escape e) text (cs ++ rest) =
      (if cs = escape e then text else cs) ++ replaceAll (escape e) text rest := by
  cases h with
  | blank =>
    rw [if_neg (by simp [escape])]
    exact Text.replaceAll_append_of_not_mem (by decide)
  | kept _ keep =>
    have ne := plain.ne_percent keep
    rw [if_neg (by simp [escape])]
    exact Text.replaceAll_append_of_not_mem (by simpa using ne.symm)
  | escaped _ _ =>
    split
    next same =>
      rw [same]
      exact Text.replaceAll_append
    next other =>
      -- Escapes have one length, so none is in front of another one.
      have starts : ¬ escape e <+: escape b ++ rest := by
        intro occurs
        have same := List.prefix_of_prefix_length_le occurs (List.prefix_append _ _) (Nat.le_refl 3)
        exact other (same.eq_of_length rfl).symm
      rw [escape_append] at starts
      rw [escape_append, Text.replaceAll_cons_of_not_prefix starts]
      exact congrArg ('%' :: ·) (Text.replaceAll_append_of_not_mem (percent_not_mem_digits b))

/-- With one more kept character, its escape gives way to it. -/
theorem Encoded.keep (h : Encoded kept b cs) (blank : e ≠ Ascii.blank) :
    Encoded (fun c => kept c || c == char e) b (if cs = escape e then [char e] else cs) := by
  cases h with
  | blank =>
    rw [if_neg (by simp [escape])]
    exact .blank
  | kept ne keep =>
    rw [if_neg (by simp [escape])]
    exact .kept ne (by simp [keep])
  | escaped ne drop =>
    split
    next same =>
      obtain rfl := escape_inj.mp same
      exact .kept ne (by simp)
    next other =>
      have differ : b ≠ e := fun eq => other (congrArg escape eq)
      exact .escaped ne (by simp [drop, char_inj, differ])

/-- With one kept character less, it gives way to its escape. -/
theorem Encoded.drop (h : Encoded kept b cs) (plus : char e ≠ '+') :
    Encoded (fun c => kept c && c != char e) b (if cs = [char e] then escape e else cs) := by
  cases h with
  | blank =>
    rw [if_neg (by simpa using plus.symm)]
    exact .blank
  | kept ne kept =>
    split
    next same =>
      obtain rfl := char_inj.mp (List.singleton_inj.mp same)
      exact .escaped ne (by simp)
    next other =>
      have differ : b ≠ e := fun eq => other (by rw [eq])
      exact .kept ne (by simp [kept, char_inj, differ])
  | escaped ne drop =>
    rw [if_neg (by simp [escape])]
    exact .escaped ne (by simp [drop])

/-- Where an escape is replaced by its character, that character is kept. -/
theorem replaceAll_escape (plain : Plain kept) (blank : e ≠ Ascii.blank) (s : String) :
    replaceAll (escape e) [char e] (encode kept s) =
      encode (fun c => kept c || c == char e) s := by
  rw [encode, encode]
  induction Utf8.encode s with
  | nil => rfl
  | cons b rest ih =>
    have way := encoded_encodeByte kept b
    rw [List.flatMap_cons, way.replaceAll_escape plain, ih, List.flatMap_cons, (way.keep blank).eq]

/-- No kept character but the one in question is replaced, if it is in no escape. -/
theorem Encoded.replaceAll_kept (h : Encoded kept b cs) (plus : char e ≠ '+')
    (percent : char e ≠ '%') (digit : char e ∉ upperDigits) (text rest : List Char) :
    replaceAll [char e] text (cs ++ rest) =
      (if cs = [char e] then text else cs) ++ replaceAll [char e] text rest := by
  split
  next same =>
    rw [same]
    exact Text.replaceAll_append
  next other =>
    refine Text.replaceAll_append_of_not_mem fun mem => ?_
    cases h with
    | blank => exact plus (List.mem_singleton.mp mem)
    | kept _ _ => exact other (congrArg (fun c => [c]) (List.mem_singleton.mp mem).symm)
    | escaped _ _ =>
      rcases of_mem_escape mem with sign | hex
      · exact percent sign
      · exact digit hex

/-- Where a kept character is replaced by its escape, it is kept no longer. -/
theorem replaceAll_kept (plus : char e ≠ '+') (percent : char e ≠ '%')
    (digit : char e ∉ upperDigits) (s : String) :
    replaceAll [char e] (escape e) (encode kept s) =
      encode (fun c => kept c && c != char e) s := by
  rw [encode, encode]
  induction Utf8.encode s with
  | nil => rfl
  | cons b rest ih =>
    have way := encoded_encodeByte kept b
    rw [List.flatMap_cons, way.replaceAll_kept plus percent digit, ih, List.flatMap_cons,
      (way.drop plus).eq]

/-- Makes the encoding of a query one of an object name: escapes of tildes become tildes, and then
stars become escapes of stars. -/
def patch (encoded : List Char) : List Char :=
  replaceAll ['*'] "%2A".toList (replaceAll "%7E".toList ['~'] encoded)

/-- The two replacements give the encoding for names. -/
theorem patch_encode (s : String) : patch (encode keptInQuery s) = encode keptInName s := by
  have tilde : replaceAll "%7E".toList ['~'] (encode keptInQuery s) =
      encode (fun c => keptInQuery c || c == '~') s :=
    replaceAll_escape (e := 0x7E) plain_keptInQuery (by decide) s
  rw [patch, tilde, keptInName_eq]
  exact replaceAll_kept (e := 0x2A) (by decide) (by decide) (by decide) s

end FormEncoding

end SurveyDispatch
