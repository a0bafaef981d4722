import SurveyDispatch.Text.Base64

/-!
# What is written is read back

UTF-8 and base64 lose nothing.  A text is read back from its bytes (`Utf8.decode_encode`), and bytes
are read back from their characters (`Base64.decode_encode`).

Both are shown one unit at a time: a unit at the front is read, and the rest is read as if it stood
alone.  For UTF-8 the unit is a character and for base64 a group of three bytes.
-/

namespace SurveyDispatch

/-! ## UTF-8 -/

namespace Utf8

theorem encodeChars_append (cs ds : List Char) :
    encodeChars (cs ++ ds) = encodeChars cs ++ encodeChars ds := List.flatMap_append

theorem encodeChars_cons (c : Char) (cs : List Char) :
    encodeChars (c :: cs) = encodeChar c ++ encodeChars cs := rfl

theorem toNat_ofNat_of_lt {n : Nat} (h : n < 0x100) : (UInt8.ofNat n).toNat = n := by
  rw [UInt8.toNat_ofNat']
  exact Nat.mod_eq_of_lt h

/-- Characters end at U+10FFFF. -/
theorem toNat_lt (c : Char) : c.toNat < 0x110000 := by
  rcases c.valid with h | h
  · exact Nat.lt_trans h (by decide)
  · exact h.2

/-- The bytes of a character are the character itself or none of the first 128. -/
theorem toNat_of_mem_encodeChar {c : Char} {b : UInt8} (h : b ∈ encodeChar c) :
    (c.toNat < 0x80 ∧ b.toNat = c.toNat) ∨ 0x80 ≤ b.toNat := by
  have bound := toNat_lt c
  unfold encodeChar at h
  dsimp only at h
  split at h
  next low =>
    left
    cases List.mem_singleton.mp h
    exact ⟨low, toNat_ofNat_of_lt (by omega)⟩
  next =>
    right
    split at h
    · simp only [List.mem_cons, List.not_mem_nil, or_false] at h
      rcases h with rfl | rfl <;> rw [toNat_ofNat_of_lt (by omega)] <;> omega
    · split at h
      · simp only [List.mem_cons, List.not_mem_nil, or_false] at h
        rcases h with rfl | rfl | rfl <;> rw [toNat_ofNat_of_lt (by omega)] <;> omega
      · simp only [List.mem_cons, List.not_mem_nil, or_false] at h
        rcases h with rfl | rfl | rfl | rfl <;> rw [toNat_ofNat_of_lt (by omega)] <;> omega

theorem encodeChar_of_lt {c : Char} (h : c.toNat < 0x80) : encodeChar c = [.ofNat c.toNat] := by
  unfold encodeChar
  exact if_pos h

theorem tail?_ofNat {n : Nat} (h : n < 0x40) : tail? (.ofNat (0x80 + n)) = some n := by
  unfold tail?
  rw [toNat_ofNat_of_lt (by omega), if_pos (by omega)]
  exact congrArg some (by omega)

theorem lead?_two {n : Nat} (h : n < 0x20) : lead? (.ofNat (0xC0 + n)) = some ⟨n, 0, 0x80⟩ := by
  unfold lead?
  rw [toNat_ofNat_of_lt (by omega)]
  dsimp only
  rw [if_pos (by omega), Nat.add_sub_cancel_left]

theorem lead?_three {n : Nat} (h : n < 0x10) : lead? (.ofNat (0xE0 + n)) = some ⟨n, 1, 0x800⟩ := by
  unfold lead?
  rw [toNat_ofNat_of_lt (by omega)]
  dsimp only
  rw [if_neg (by omega), if_pos (by omega), Nat.add_sub_cancel_left]

theorem lead?_four {n : Nat} (h : n < 8) : lead? (.ofNat (0xF0 + n)) = some ⟨n, 2, 0x10000⟩ := by
  unfold lead?
  rw [toNat_ofNat_of_lt (by omega)]
  dsimp only
  rw [if_neg (by omega), if_neg (by omega), if_pos (by omega), Nat.add_sub_cancel_left]

theorem scalar?_toNat {c : Char} {low n : Nat} (eq : n = c.toNat) (h : low ≤ n) :
    scalar? low n = some c := by
  subst eq
  have valid : c.toNat.isValidChar := c.valid
  unfold scalar?
  rw [dif_pos valid, if_pos h]
  rfl

/-- A lead byte and what it announces. -/
theorem decodeFrom_lead {b : UInt8} {p : Pending} (rest : Bytes) (high : ¬ b.toNat < 0x80)
    (h : lead? b = some p) : decodeFrom none (b :: rest) = decodeFrom (some p) rest := by
  rw [decodeFrom, if_neg high, h]
  rfl

/-- A tail byte that is not the last one. -/
theorem decodeFrom_tail {p : Pending} {n more : Nat} (rest : Bytes) (h : n < 0x40)
    (pending : p.more = more + 1) :
    decodeFrom (some p) (.ofNat (0x80 + n) :: rest) =
      decodeFrom (some ⟨p.bits * 0x40 + n, more, p.low⟩) rest := by
  rw [decodeFrom, tail?_ofNat h, pending]
  rfl

/-- The last tail byte. -/
theorem decodeFrom_last {p : Pending} {n : Nat} {c : Char} (rest : Bytes) (h : n < 0x40)
    (pending : p.more = 0) (ends : p.bits * 0x40 + n = c.toNat) (low : p.low ≤ c.toNat) :
    decodeFrom (some p) (.ofNat (0x80 + n) :: rest) = (decodeFrom none rest).map (c :: ·) := by
  rw [decodeFrom, tail?_ofNat h, pending]
  simp only [Option.bind_eq_bind, Option.bind_some, scalar?_toNat ends (ends ▸ low)]
  cases decodeFrom none rest <;> rfl

/-- A character at the front is read. -/
theorem decodeFrom_encodeChar (c : Char) (rest : Bytes) :
    decodeFrom none (encodeChar c ++ rest) = (decodeFrom none rest).map (c :: ·) := by
  have bound := toNat_lt c
  unfold encodeChar
  dsimp only
  split
  next low =>
    rw [List.singleton_append, decodeFrom, toNat_ofNat_of_lt (by omega), if_pos low,
      Char.ofNat_toNat]
    cases decodeFrom none rest <;> rfl
  next =>
    split
    · rw [List.cons_append, List.singleton_append,
        decodeFrom_lead _ (by rw [toNat_ofNat_of_lt] <;> omega) (lead?_two (by omega))]
      exact decodeFrom_last _ (by omega) rfl (by dsimp only; omega) (by dsimp only; omega)
    · split
      · rw [List.cons_append, List.cons_append, List.singleton_append,
          decodeFrom_lead _ (by rw [toNat_ofNat_of_lt] <;> omega) (lead?_three (by omega)),
          decodeFrom_tail _ (by omega) rfl]
        exact decodeFrom_last _ (by omega) rfl (by dsimp only; omega) (by dsimp only; omega)
      · rw [List.cons_append, List.cons_append, List.cons_append, List.singleton_append,
          decodeFrom_lead _ (by rw [toNat_ofNat_of_lt] <;> omega) (lead?_four (by omega)),
          decodeFrom_tail _ (by omega) rfl, decodeFrom_tail _ (by omega) rfl]
        exact decodeFrom_last _ (by omega) rfl (by dsimp only; omega) (by dsimp only; omega)

/-- Characters are read back from their bytes. -/
theorem decodeChars_encodeChars (cs : List Char) : decodeChars (encodeChars cs) = some cs := by
  unfold decodeChars
  induction cs with
  | nil => rfl
  | cons c rest ih => rw [encodeChars_cons, decodeFrom_encodeChar, ih, Option.map_some]

/-- A text is read back from its bytes. -/
theorem decode_encode (s : String) : decode (encode s) = some s := by
  rw [decode, encode, decodeChars_encodeChars, Option.map_some, String.ofList_toList]

end Utf8

/-! ## Base64 -/

namespace Base64

theorem value?_digit {n : Nat} (h : n < 64) : value? (digit n) = some n := by
  have all : ∀ n < 64, value? (digit n) = some n := by decide
  exact all n h

theorem digit_ne_filling {n : Nat} (h : n < 64) : digit n ≠ '=' := by
  have all : ∀ n < 64, digit n ≠ '=' := by decide
  exact all n h

/-- Bytes are read back from their characters. -/
theorem decode_encode (bytes : Bytes) : decode (encode bytes) = some bytes := by
  induction bytes using encode.induct with
  | case1 => rfl
  | case2 a =>
    have bound := a.toNat_lt
    rw [encode, decode, if_pos rfl, if_pos rfl, decodeFilled, value?_digit (by omega),
      value?_digit (by omega)]
    simp only [Option.bind_eq_bind, Option.bind_some]
    rw [if_pos trivial, if_pos (by omega)]
    have first : a.toNat / 4 * 4 + a.toNat % 4 * 16 / 16 = a.toNat := by omega
    rw [first, UInt8.ofNat_toNat]
    rfl
  | case3 a b =>
    have bound := a.toNat_lt
    have bound' := b.toNat_lt
    rw [encode, decode, if_pos rfl, if_pos rfl, decodeFilled, value?_digit (by omega),
      value?_digit (by omega)]
    simp only [Option.bind_eq_bind, Option.bind_some]
    rw [if_neg (digit_ne_filling (by omega)), value?_digit (by omega)]
    simp only [Option.bind_some]
    rw [if_pos (by omega)]
    have first : a.toNat / 4 * 4 + (a.toNat % 4 * 16 + b.toNat / 16) / 16 = a.toNat := by omega
    have second : (a.toNat % 4 * 16 + b.toNat / 16) % 16 * 16 + b.toNat % 16 * 4 / 4 = b.toNat := by
      omega
    rw [first, second, UInt8.ofNat_toNat, UInt8.ofNat_toNat]
    rfl
  | case4 a b c rest ih =>
    have bound := a.toNat_lt
    have bound' := b.toNat_lt
    have bound'' := c.toNat_lt
    rw [encode, decode, if_neg (digit_ne_filling (by omega)), value?_digit (by omega),
      value?_digit (by omega), value?_digit (by omega), value?_digit (by omega), ih]
    simp only [Option.bind_eq_bind, Option.bind_some]
    have first : a.toNat / 4 * 4 + (a.toNat % 4 * 16 + b.toNat / 16) / 16 = a.toNat := by omega
    have second : (a.toNat % 4 * 16 + b.toNat / 16) % 16 * 16 +
        (b.toNat % 16 * 4 + c.toNat / 64) / 4 = b.toNat := by omega
    have third : (b.toNat % 16 * 4 + c.toNat / 64) % 4 * 64 + c.toNat % 64 = c.toNat := by omega
    rw [first, second, third, UInt8.ofNat_toNat, UInt8.ofNat_toNat, UInt8.ofNat_toNat]
    rfl

end Base64

end SurveyDispatch
