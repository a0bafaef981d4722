import Mathlib.Data.List.TakeWhile
import Mathlib.Data.String.Basic
import SurveyDispatch.Text.Trim

/-!
# The ends of texts

The part of a text behind the last occurrence of a character is its one end that is free of the
character and has nothing in front, or a front that the character closes (`Text.afterLast_eq_iff`).

The same part is reached by its offset in bytes.  A text can be cut at an offset if the bytes in
front of the offset are those of whole characters (`Text.fromByte?_eq_some_iff`).  The offset behind
the last occurrence of a character of one byte is such an offset (`Text.fromByte?_lastByte?`).
-/

namespace SurveyDispatch.Text

/-! ## Behind the last occurrence of a character -/

/-- A text that is empty or ends with a character. -/
def ClosedBy (c : Char) (front : List Char) : Prop := front = [] ∨ ∃ rest, front = rest ++ [c]

variable {c : Char} {cs front tail : List Char}

theorem afterLast_append (h : c ∉ tail) :
    afterLast c (front ++ tail) = afterLast c front ++ tail := by
  have free : ∀ d ∈ tail.reverse, (d != c) = true := by
    intro d mem
    exact bne_iff_ne.mpr fun eq => h (eq ▸ List.mem_reverse.mp mem)
  unfold afterLast
  rw [List.reverse_append, List.takeWhile_append_of_pos free, List.reverse_append,
    List.reverse_reverse]

theorem ClosedBy.afterLast_eq (h : ClosedBy c front) : afterLast c front = [] := by
  rcases h with rfl | ⟨rest, rfl⟩
  · rfl
  · rw [afterLast, List.reverse_append, List.reverse_singleton, List.singleton_append,
      List.takeWhile_cons_of_neg (by simp), List.reverse_nil]

theorem not_mem_afterLast : c ∉ afterLast c cs := by
  intro mem
  have differ := List.mem_takeWhile_imp (List.mem_reverse.mp mem)
  exact absurd rfl (bne_iff_ne.mp differ)

theorem exists_append_afterLast (c : Char) (cs : List Char) :
    ∃ front, ClosedBy c front ∧ cs = front ++ afterLast c cs := by
  refine ⟨(cs.reverse.dropWhile (· != c)).reverse, ?_, ?_⟩
  · cases last : cs.reverse.dropWhile (· != c) with
    | nil => exact .inl rfl
    | cons d rest =>
      have closing := List.head_dropWhile_not (· != c) (l := cs.reverse) (by rw [last]; simp)
      simp only [last, List.head_cons, bne_eq_false_iff_eq] at closing
      exact .inr ⟨rest.reverse, by rw [List.reverse_cons, closing]⟩
  · rw [afterLast, ← List.reverse_append, List.takeWhile_append_dropWhile, List.reverse_reverse]

/-- The part behind the last occurrence is the free end behind a closed front. -/
theorem afterLast_eq_iff :
    afterLast c cs = tail ↔ c ∉ tail ∧ ∃ front, ClosedBy c front ∧ cs = front ++ tail := by
  constructor
  · rintro rfl
    exact ⟨not_mem_afterLast, exists_append_afterLast c cs⟩
  · rintro ⟨free, front, closed, rfl⟩
    rw [afterLast_append free, closed.afterLast_eq, List.nil_append]

theorem afterLast_of_not_mem (h : c ∉ cs) : afterLast c cs = cs :=
  afterLast_eq_iff.mpr ⟨h, [], .inl rfl, rfl⟩

theorem exists_append_cons_afterLast (h : c ∈ cs) : ∃ front, cs = front ++ c :: afterLast c cs := by
  obtain ⟨front, rfl | ⟨rest, rfl⟩, eq⟩ := exists_append_afterLast c cs
  · rw [List.nil_append] at eq
    rw [eq] at h
    exact absurd h not_mem_afterLast
  · exact ⟨rest, by rwa [List.append_assoc] at eq⟩

/-- What is in front of an occurrence does not matter. -/
theorem afterLast_behind (front cs : List Char) (c : Char) :
    afterLast c (front ++ c :: cs) = afterLast c cs := by
  obtain ⟨inner, closed, eq⟩ := exists_append_afterLast c cs
  refine afterLast_eq_iff.mpr ⟨not_mem_afterLast, front ++ c :: inner, .inr ?_, ?_⟩
  · rcases closed with rfl | ⟨rest, rfl⟩
    · exact ⟨front, rfl⟩
    · exact ⟨front ++ c :: rest, by simp⟩
  · conv_lhs => rw [eq]
    rw [List.append_assoc, List.cons_append]

/-! ## Behind the leading occurrences of a character -/

theorem dropWhile_append_of_not_mem (h : c ∉ tail) :
    (front ++ tail).dropWhile (· == c) = front.dropWhile (· == c) ++ tail := by
  have stays : tail.dropWhile (· == c) = tail := by
    cases tail with
    | nil => rfl
    | cons d rest =>
      have differ : ¬ (d == c) = true := fun eq => h (beq_iff_eq.mp eq ▸ List.mem_cons_self)
      exact List.dropWhile_cons_of_neg differ
  rw [List.dropWhile_append, stays]
  split
  next empty => rw [List.isEmpty_iff.mp empty, List.nil_append]
  next => rfl

theorem exists_append_dropWhile (c : Char) (cs : List Char) :
    ∃ front rest, cs = front ++ rest ∧ cs.dropWhile (· == c) = rest ∧ rest.head? ≠ some c := by
  refine ⟨_, _, List.takeWhile_append_dropWhile.symm, rfl, fun start => ?_⟩
  have differ := List.head?_dropWhile_not (· == c) cs
  rw [start] at differ
  exact absurd (beq_self_eq_true c) (Bool.eq_false_iff.mp differ)

/-! ## Offsets in bytes -/

/-- The text from an offset in bytes on.  There is none if the offset is behind the end or inside a
character. -/
def fromByte? (cs : List Char) (i : Nat) : Option (List Char) :=
  if (String.Pos.Raw.mk i).IsValid (.ofList cs) then
    some (String.Pos.Raw.extract (.ofList cs) ⟨i⟩ ⟨String.utf8Len cs⟩).toList
  else none

/-- The offset of the last occurrence of a character. -/
def lastByte? (c : Char) : List Char → Option Nat
  | [] => none
  | d :: rest =>
    match lastByte? c rest with
    | some i => some (d.utf8Size + i)
    | none => if d = c then some 0 else none

/-- A text is cut behind the bytes of its first characters. -/
theorem fromByte?_append (front rest : List Char) :
    fromByte? (front ++ rest) (String.utf8Len front) = some rest := by
  have boundary : (String.Pos.Raw.mk (String.utf8Len front)).IsValid (.ofList (front ++ rest)) := by
    refine String.Pos.Raw.isValid_iff_exists_append.mpr
      ⟨.ofList front, .ofList rest, String.ofList_append, ?_⟩
    rw [String.rawEndPos_ofList]
  have cut := String.extract_of_valid front rest []
  rw [List.append_nil] at cut
  rw [fromByte?, if_pos boundary, String.utf8Len_append, cut, String.toList_ofList]

/-- A text can be cut at a byte exactly if whole characters end there. -/
theorem fromByte?_eq_some_iff {i : Nat} {rest : List Char} :
    fromByte? cs i = some rest ↔ ∃ front, cs = front ++ rest ∧ i = String.utf8Len front := by
  constructor
  · intro h
    by_cases boundary : (String.Pos.Raw.mk i).IsValid (.ofList cs)
    · obtain ⟨a, b, split, offset⟩ := String.Pos.Raw.isValid_iff_exists_append.mp boundary
      have chars : cs = a.toList ++ b.toList := by
        rw [← String.toList_append, ← split, String.toList_ofList]
      have bytes : i = String.utf8Len a.toList := by
        rw [String.utf8Len_toList]
        exact congrArg String.Pos.Raw.byteIdx offset
      rw [chars, bytes, fromByte?_append] at h
      exact ⟨a.toList, Option.some.inj h ▸ chars, bytes⟩
    · rw [fromByte?, if_neg boundary] at h
      cases h
  · rintro ⟨front, rfl, rfl⟩
    exact fromByte?_append front rest

theorem lastByte?_of_not_mem (h : c ∉ cs) : lastByte? c cs = none := by
  induction cs with
  | nil => rfl
  | cons d rest ih =>
    rw [List.mem_cons, not_or] at h
    rw [lastByte?, ih h.2]
    exact if_neg (Ne.symm h.1)

/-- The last place of a character is behind all the bytes in front of it. -/
theorem lastByte?_append_cons (h : c ∉ tail) :
    lastByte? c (front ++ c :: tail) = some (String.utf8Len front) := by
  induction front with
  | nil =>
    rw [List.nil_append, lastByte?, lastByte?_of_not_mem h]
    exact if_pos rfl
  | cons d front ih =>
    rw [List.cons_append, lastByte?, ih, String.utf8Len_cons, Nat.add_comm]

/-- The offset behind the last occurrence of a character of one byte, or of the whole text, is where
the part behind it starts. -/
theorem fromByte?_lastByte? (one : c.utf8Size = 1) (cs : List Char) :
    fromByte? cs ((lastByte? c cs).elim 0 (· + 1)) = some (afterLast c cs) := by
  obtain ⟨front, closed, eq⟩ := exists_append_afterLast c cs
  refine fromByte?_eq_some_iff.mpr ⟨front, eq, ?_⟩
  rcases closed with rfl | ⟨rest, rfl⟩
  · rw [eq, List.nil_append, lastByte?_of_not_mem not_mem_afterLast]
    rfl
  · rw [eq, List.append_assoc, List.singleton_append, lastByte?_append_cons not_mem_afterLast,
      String.utf8Len_append, String.utf8Len_cons, one]
    rfl

end SurveyDispatch.Text
