import SurveyDispatch.Pattern.Search

/-!
# What patterns match

What a pattern matches is a relation between two states of a matcher, before and after
(`Pattern.Matches`).  A state is a place in a text together with the slots that have been written
down.  The relation follows the pattern, and no program is part of it.

A repeated set of characters takes a front off the text that lies ahead, and which front that can be
is all there is to say (`matches_repeated_char_iff`).
-/

namespace SurveyDispatch.Pattern

/-- Where a matcher is. -/
structure State where
  /-- How many characters lie behind. -/
  position : Nat
  /-- The text that lies ahead. -/
  rest : List Char
  /-- The positions that have been written down. -/
  slots : Slots

namespace State

/-- Writes down the position. -/
def save (slot : Nat) (s : State) : State := { s with slots := (slot, s.position) :: s.slots }

/-- The state behind some of the characters ahead. -/
def skip (s : State) (front rest : List Char) : State :=
  ⟨s.position + front.length, rest, s.slots⟩

/-- Whether a state is the next one behind a character of a set. -/
def Reads (set : CharSet) (s t : State) : Prop :=
  ∃ c rest, set.contains c = true ∧ s.rest = c :: rest ∧ t = s.skip [c] rest

end State

/-- A relation so many times. -/
def Times (r : State → State → Prop) : Nat → State → State → Prop
  | 0, s, t => s = t
  | n + 1, s, t => ∃ u, r s u ∧ Times r n u t

/-- Whether a pattern leads from one state to another.  A greatest number of rounds below the least
one does not count. -/
def Matches : Pattern → State → State → Prop
  | empty, s, t => s = t
  | start, s, t => s.position = 0 ∧ s = t
  | finish, s, t => s.rest = [] ∧ s = t
  | char set, s, t => s.Reads set t
  | group index body, s, t =>
    ∃ u, Matches body (s.save (startSlot index)) u ∧ u.save (finishSlot index) = t
  | seq p q, s, t => ∃ u, Matches p s u ∧ Matches q u t
  | alt p q, s, t => Matches p s t ∨ Matches q s t
  | repeated count body, s, t =>
    ∃ n, count.least ≤ n ∧ (∀ most, count.most = some most → n ≤ max count.least most) ∧
      Times (Matches body) n s t

variable {r : State → State → Prop} {s t u : State}

/-! ## Rounds -/

theorem times_one_iff : Times r 1 s t ↔ r s t := by
  simp [Times]

theorem times_add {m n : Nat} (first : Times r m s t) (second : Times r n t u) :
    Times r (m + n) s u := by
  induction m generalizing s with
  | zero =>
    cases first
    rw [Nat.zero_add]
    exact second
  | succ m ih =>
    obtain ⟨v, round, first⟩ := first
    rw [Nat.succ_add]
    exact ⟨v, round, ih first⟩

/-- One front after the other. -/
theorem skip_skip {front more rest rest' : List Char} :
    (s.skip front rest).skip more rest' = s.skip (front ++ more) rest' := by
  simp [State.skip, Nat.add_assoc]

/-- Rounds of one character read as many characters of its set. -/
theorem times_reads_iff {set : CharSet} {n : Nat} :
    Times (State.Reads set) n s t ↔
      ∃ front rest, front.length = n ∧ (∀ c ∈ front, set.contains c = true) ∧
        s.rest = front ++ rest ∧ t = s.skip front rest := by
  induction n generalizing s with
  | zero =>
    constructor
    · rintro rfl
      exact ⟨[], s.rest, rfl, by simp, rfl, rfl⟩
    · rintro ⟨front, rest, length, -, ahead, rfl⟩
      cases List.length_eq_zero_iff.mp length
      rw [← show s.rest = rest from ahead]
      rfl
  | succ n ih =>
    constructor
    · rintro ⟨u, ⟨c, rest, member, ahead, rfl⟩, more⟩
      obtain ⟨front, rest', rfl, members, ahead', rfl⟩ := ih.mp more
      refine ⟨c :: front, rest', rfl, List.forall_mem_cons.mpr ⟨member, members⟩, ?_, skip_skip⟩
      rw [ahead, show rest = front ++ rest' from ahead', List.cons_append]
    · rintro ⟨front, rest, length, members, ahead, rfl⟩
      cases front with
      | nil => cases length
      | cons c front =>
        obtain ⟨member, members⟩ := List.forall_mem_cons.mp members
        refine ⟨s.skip [c] (front ++ rest), ⟨c, _, member, ahead, rfl⟩, ih.mpr ?_⟩
        refine ⟨front, rest, Nat.succ.inj length, members, rfl, ?_⟩
        rw [skip_skip, List.singleton_append]

/-- A repeated set of characters takes that many of them. -/
theorem matches_repeated_char_iff {count : Count} {set : CharSet} :
    Matches (repeated count (char set)) s t ↔
      ∃ front rest, count.least ≤ front.length ∧
        (∀ most, count.most = some most → front.length ≤ max count.least most) ∧
        (∀ c ∈ front, set.contains c = true) ∧ s.rest = front ++ rest ∧ t = s.skip front rest := by
  constructor
  · rintro ⟨n, least, most, rounds⟩
    obtain ⟨front, rest, rfl, members, ahead, same⟩ := times_reads_iff.mp rounds
    exact ⟨front, rest, least, most, members, ahead, same⟩
  · rintro ⟨front, rest, least, most, members, ahead, same⟩
    exact ⟨front.length, least, most,
      times_reads_iff.mpr ⟨front, rest, rfl, members, ahead, same⟩⟩

/-- What may be there once is there or not. -/
theorem matches_optional_iff {greedy : Bool} {p : Pattern} :
    Matches (repeated ⟨0, some 1, greedy⟩ p) s t ↔ s = t ∨ Matches p s t := by
  constructor
  · rintro ⟨n, -, most, rounds⟩
    have most : n ≤ 1 := most 1 rfl
    cases n with
    | zero => exact .inl rounds
    | succ n =>
      obtain rfl : n = 0 := by omega
      exact .inr (times_one_iff.mp rounds)
  · rintro (same | matched)
    · exact ⟨0, Nat.le_refl 0, fun _ _ => Nat.zero_le _, same⟩
    · refine ⟨1, Nat.zero_le 1, ?_, times_one_iff.mpr matched⟩
      rintro _ ⟨⟩
      exact Nat.le_refl 1

end SurveyDispatch.Pattern
