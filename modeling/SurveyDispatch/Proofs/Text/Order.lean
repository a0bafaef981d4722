import SurveyDispatch.Proofs.Text.RoundTrips
import SurveyDispatch.Text.Front

/-!
# The order of texts

Texts are ordered by their characters, and that is the order of their bytes
(`encode_lt_encode_iff`): a smaller character already differs in its bytes before either of the two
encodings ends.

The texts that start with a front stand next to each other.  None of them is below the front, and
between the front and one of them there are only others (`Text.startsWith_of_le`).
-/

namespace SurveyDispatch

/-! ## Characters and their bytes -/

namespace Utf8

theorem ofNat_lt_ofNat {m n : Nat} (hm : m < 0x100) (hn : n < 0x100) :
    UInt8.ofNat m < UInt8.ofNat n ↔ m < n := by
  rw [UInt8.lt_iff_toNat_lt, toNat_ofNat_of_lt hm, toNat_ofNat_of_lt hn]

theorem ofNat_inj {m n : Nat} (hm : m < 0x100) (hn : n < 0x100) :
    UInt8.ofNat m = UInt8.ofNat n ↔ m = n := by
  rw [← UInt8.toNat_inj, toNat_ofNat_of_lt hm, toNat_ofNat_of_lt hn]

/-- The four lengths of the bytes of a character. -/
theorem encodeChar_cases (c : Char) :
    (c.toNat < 0x80 ∧ encodeChar c = [.ofNat c.toNat]) ∨
    (0x80 ≤ c.toNat ∧ c.toNat < 0x800 ∧
      encodeChar c = [.ofNat (0xC0 + c.toNat / 0x40), .ofNat (0x80 + c.toNat % 0x40)]) ∨
    (0x800 ≤ c.toNat ∧ c.toNat < 0x10000 ∧
      encodeChar c = [.ofNat (0xE0 + c.toNat / 0x1000), .ofNat (0x80 + c.toNat / 0x40 % 0x40),
        .ofNat (0x80 + c.toNat % 0x40)]) ∨
    (0x10000 ≤ c.toNat ∧ c.toNat < 0x110000 ∧
      encodeChar c = [.ofNat (0xF0 + c.toNat / 0x40000), .ofNat (0x80 + c.toNat / 0x1000 % 0x40),
        .ofNat (0x80 + c.toNat / 0x40 % 0x40), .ofNat (0x80 + c.toNat % 0x40)]) := by
  have bound := toNat_lt c
  unfold encodeChar
  dsimp only
  split
  next one => exact .inl ⟨one, rfl⟩
  next one =>
    right
    split
    next two => exact .inl ⟨by omega, two, rfl⟩
    next two =>
      right
      split
      next three => exact .inl ⟨by omega, three, rfl⟩
      next three => exact .inr ⟨by omega, bound, rfl⟩

/-- The bytes of a smaller character are smaller, whatever follows them. -/
theorem encodeChar_append_lt {c d : Char} (h : c < d) (xs ys : Bytes) :
    encodeChar c ++ xs < encodeChar d ++ ys := by
  have lt : c.toNat < d.toNat := h
  rcases encodeChar_cases c with ⟨_, hc⟩ | ⟨_, _, hc⟩ | ⟨_, _, hc⟩ | ⟨_, _, hc⟩ <;>
    rcases encodeChar_cases d with ⟨_, hd⟩ | ⟨_, _, hd⟩ | ⟨_, _, hd⟩ | ⟨_, _, hd⟩ <;>
    rw [hc, hd] <;>
    simp (disch := omega) only [List.cons_append, List.nil_append, List.cons_lt_cons_iff,
      ofNat_lt_ofNat, ofNat_inj] <;>
    omega

/-- Texts in ascending order have bytes in ascending order. -/
theorem encodeChars_lt {cs ds : List Char} (h : cs < ds) : encodeChars cs < encodeChars ds := by
  have lex : List.Lex (· < ·) cs ds := h
  clear h
  induction lex with
  | @nil d ds =>
    rw [encodeChars_cons]
    rcases encodeChar_cases d with ⟨_, hd⟩ | ⟨_, _, hd⟩ | ⟨_, _, hd⟩ | ⟨_, _, hd⟩ <;>
      rw [hd] <;> exact List.Lex.nil
  | rel lt => exact encodeChar_append_lt lt _ _
  | cons _ ih => exact List.append_left_lt ih

/-- Texts are in the order of their bytes. -/
theorem encode_lt_encode_iff {s t : String} : encode s < encode t ↔ s < t := by
  constructor
  · intro lt
    rcases Std.lt_trichotomy s t with below | same | above
    · exact below
    · subst same
      exact absurd lt (List.lt_irrefl _)
    · exact absurd lt (List.lt_asymm (encodeChars_lt (String.lt_iff.mp above)))
  · intro lt
    exact encodeChars_lt (String.lt_iff.mp lt)

end Utf8

/-! ## Texts with a common front -/

namespace Text

theorem startsWith_iff {s front : String} :
    startsWith s front = true ↔ front.toList <+: s.toList := List.isPrefixOf_iff_prefix

theorem startsWith_append (s t : String) : startsWith (s ++ t) s = true := by
  rw [startsWith_iff, String.toList_append]
  exact List.prefix_append _ _

theorem startsWith_iff_exists {s front : String} :
    startsWith s front = true ↔ ∃ rest, s = front ++ rest := by
  constructor
  · intro h
    obtain ⟨rest, split⟩ := startsWith_iff.mp h
    refine ⟨.ofList rest, String.toList_injective ?_⟩
    rw [String.toList_append, String.toList_ofList, split]
  · rintro ⟨rest, rfl⟩
    exact startsWith_append front rest

/-- A text between a front and a text with that front has the front as well. -/
theorem isPrefix_of_not_lt : ∀ {front cs ds : List Char}, ¬ cs < front → ¬ ds < cs →
    front <+: ds → front <+: cs
  | [], _, _, _, _, _ => List.nil_prefix
  | _ :: _, [], _, above, _, _ => absurd List.Lex.nil above
  | f :: front, c :: cs, ds, above, below, h => by
    obtain ⟨ds, rfl, rest⟩ := List.cons_prefix_iff.mp h
    rw [List.cons_lt_cons_iff, not_or] at above below
    obtain rfl : f = c := Std.le_antisymm (Std.not_lt.mp above.1) (Std.not_lt.mp below.1)
    exact List.cons_prefix_cons.mpr ⟨rfl, isPrefix_of_not_lt (fun lt => above.2 ⟨rfl, lt⟩)
      (fun lt => below.2 ⟨rfl, lt⟩) rest⟩

/-- What lies between a front and a text that starts with it starts with it, too. -/
theorem startsWith_of_le {s t front : String} (above : front ≤ s) (below : s ≤ t)
    (h : startsWith t front = true) : startsWith s front = true := by
  rw [← String.not_lt, String.lt_iff] at above below
  exact startsWith_iff.mpr (isPrefix_of_not_lt above below (startsWith_iff.mp h))

theorem not_lt_of_isPrefix : ∀ {front cs : List Char}, front <+: cs → ¬ cs < front
  | [], cs, _ => List.not_lt_nil cs
  | f :: front, cs, h => by
    obtain ⟨cs, rfl, rest⟩ := List.cons_prefix_iff.mp h
    rw [List.cons_lt_cons_self]
    exact not_lt_of_isPrefix rest

/-- A text that starts with a front is not below it. -/
theorem le_of_startsWith {s front : String} (h : startsWith s front = true) : front ≤ s := by
  rw [← String.not_lt, String.lt_iff]
  exact not_lt_of_isPrefix (startsWith_iff.mp h)

end Text

end SurveyDispatch
