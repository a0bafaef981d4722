import SurveyDispatch.Proofs.Text.Digits
import SurveyDispatch.RangePattern

/-!
# Replacing ranges by their numbers

`Range.Opens` says in one equation what a range looks like, and the reader of ranges finds the
leftmost place where a text opens with one (`Range.find?_of_opens`, `Range.find?_of_not_opens`).

A number of a range is below its upper bound and so has no more digits than that bound.  So a
pattern gets shorter with every replacement (`Range.length_substitute_lt`), and its length is enough
rounds.  `expand` is the expansion without the count of rounds: a pattern without a range stands for
itself (`expand_of_find?_none`), any other one for what its replacements stand for
(`expand_of_find?_some`).

A text in front of others is *inert* if it has no range and none starts in it, whatever follows.
Inert texts are copied to every result (`Range.Inert.expand_append`).
-/

namespace SurveyDispatch

namespace Range

/-! ## What a range looks like -/

/-- The digits of a bound. -/
structure Bound (ds : List Char) : Prop where
  /-- There is a digit. -/
  nonempty : ds ≠ []
  /-- There is nothing else than digits. -/
  digits : ∀ d ∈ ds, d.isDigit = true
  /-- The number is below 2^64. -/
  below : Digits.value ds < 2 ^ 64

/-- A text opens with a range. -/
structure Opens (text first stop after : List Char) : Prop where
  /-- Two runs of digits stand in brackets, with a dash between them. -/
  text_eq : text = '[' :: (first ++ '-' :: (stop ++ ']' :: after))
  /-- The first run is a bound. -/
  first_bound : Bound first
  /-- The second run is a bound. -/
  stop_bound : Bound stop

/-- Whether a text opens with some range. -/
def OpensRange (text : List Char) : Prop := ∃ first stop after, Opens text first stop after

theorem isBound_eq_true_iff {ds : List Char} (digits : ∀ d ∈ ds, d.isDigit = true) :
    isBound ds = true ↔ Bound ds := by
  have limit : 0x10000000000000000 = 2 ^ 64 := by decide
  rw [isBound, Bool.and_eq_true, Bool.not_eq_true', List.isEmpty_eq_false_iff, decide_eq_true_eq,
    limit]
  exact ⟨fun ⟨nonempty, below⟩ => ⟨nonempty, digits, below⟩, fun h => ⟨h.nonempty, h.below⟩⟩

/-- A bracket is read as a range exactly if it opens one. -/
theorem ofInside?_eq_some_iff {inside : List Char} {r : Range} :
    ofInside? inside = some r ↔
      r.before = [] ∧ Opens ('[' :: inside) r.first r.stop r.after := by
  constructor
  · intro h
    unfold ofInside? at h
    split at h
    next first inside' outer =>
      obtain ⟨rfl, firstDigits⟩ := Digits.of_split outer
      split at h
      next stop after inner =>
        obtain ⟨rfl, stopDigits⟩ := Digits.of_split inner
        split at h
        next bounds =>
          cases h
          rw [Bool.and_eq_true, isBound_eq_true_iff firstDigits,
            isBound_eq_true_iff stopDigits] at bounds
          exact ⟨rfl, rfl, bounds.1, bounds.2⟩
        · cases h
      · cases h
    · cases h
  · obtain ⟨before, first, stop, after⟩ := r
    rintro ⟨rfl, eq, firstBound, stopBound⟩
    cases eq
    unfold ofInside?
    simp only [Digits.split_append firstBound.digits (by decide : '-'.isDigit = false),
      Digits.split_append stopBound.digits (by decide : ']'.isDigit = false),
      (isBound_eq_true_iff firstBound.digits).mpr firstBound,
      (isBound_eq_true_iff stopBound.digits).mpr stopBound, Bool.and_self, if_true]

theorem opensRange_bracket_iff {inside : List Char} :
    OpensRange ('[' :: inside) ↔ (ofInside? inside).isSome = true := by
  rw [Option.isSome_iff_exists]
  constructor
  · rintro ⟨first, stop, after, opens⟩
    exact ⟨⟨[], first, stop, after⟩, ofInside?_eq_some_iff.mpr ⟨rfl, opens⟩⟩
  · rintro ⟨r, found⟩
    exact ⟨r.first, r.stop, r.after, (ofInside?_eq_some_iff.mp found).2⟩

/-! ## The leftmost range -/

/-- A range with more text in front. -/
def behind (front : List Char) (r : Range) : Range := { r with before := front ++ r.before }

theorem substitute_behind (front : List Char) (r : Range) (n : Nat) :
    (r.behind front).substitute n = front ++ r.substitute n := by
  simp only [substitute, behind, width, List.append_assoc]

theorem behind_behind (u v : List Char) : behind u ∘ behind v = behind (u ++ v) := by
  funext r
  simp only [Function.comp_apply, behind, List.append_assoc]

/-- A range at the front is the first one. -/
theorem find?_of_opens {text first stop after : List Char} (h : Opens text first stop after) :
    find? text = some ⟨[], first, stop, after⟩ := by
  obtain rfl := h.text_eq
  have found : ofInside? _ = some ⟨[], first, stop, after⟩ := ofInside?_eq_some_iff.mpr ⟨rfl, h⟩
  rw [find?, if_pos rfl, found]

/-- Where no range opens at the front, the first one is in the rest. -/
theorem find?_of_not_opens {c : Char} {rest : List Char} (h : ¬ OpensRange (c :: rest)) :
    find? (c :: rest) = (find? rest).map (behind [c]) := by
  have plain : (if c = '[' then ofInside? rest else none) = none := by
    split
    next bracket =>
      subst bracket
      rw [opensRange_bracket_iff, Option.not_isSome_iff_eq_none] at h
      exact h
    · rfl
  rw [find?, plain]
  rfl

theorem OpensRange.eq_bracket {c : Char} {rest : List Char} (h : OpensRange (c :: rest)) :
    c = '[' := by
  obtain ⟨first, stop, after, opens⟩ := h
  exact (List.cons.inj opens.text_eq).1

theorem find?_of_ne {c : Char} (h : c ≠ '[') (rest : List Char) :
    find? (c :: rest) = (find? rest).map (behind [c]) :=
  find?_of_not_opens fun opens => h opens.eq_bracket

/-- A range that is found opens the text behind what is in front of it. -/
theorem opens_of_find? {text : List Char} {r : Range} (h : find? text = some r) :
    ∃ rest, text = r.before ++ rest ∧ Opens rest r.first r.stop r.after := by
  induction text generalizing r with
  | nil => cases h
  | cons c rest ih =>
    by_cases opens : OpensRange (c :: rest)
    · obtain ⟨first, stop, after, opens⟩ := opens
      rw [find?_of_opens opens] at h
      cases h
      exact ⟨c :: rest, rfl, opens⟩
    · rw [find?_of_not_opens opens] at h
      obtain ⟨r', found, rfl⟩ := Option.map_eq_some_iff.mp h
      obtain ⟨rest', eq, opens'⟩ := ih found
      exact ⟨rest', congrArg (c :: ·) eq, opens'⟩

/-- The numbers of a range do not include its stop. -/
theorem mem_numbers_iff {r : Range} {n : Nat} :
    n ∈ r.numbers ↔ Digits.value r.first ≤ n ∧ n < Digits.value r.stop := by
  rw [numbers, List.mem_range'_1]
  omega

/-- A pattern gets shorter with every replacement. -/
theorem length_substitute_lt {text : List Char} {r : Range} (h : find? text = some r) {n : Nat}
    (hn : n ∈ r.numbers) : (r.substitute n).length < text.length := by
  obtain ⟨rest, rfl, opens⟩ := opens_of_find? h
  have digits : (Digits.write n).length ≤ r.stop.length :=
    Digits.length_write_le opens.stop_bound.digits (mem_numbers_iff.mp hn).2
  rw [substitute, opens.text_eq]
  simp only [List.length_append, List.length_cons, Digits.length_writePadded, width]
  omega

end Range

/-! ## Expansion without a count of rounds -/

open Range

/-- Any budget that is enough gives the same texts. -/
theorem expandWithin_congr {m n : Nat} {pattern : List Char} (hm : pattern.length ≤ m)
    (hn : pattern.length ≤ n) : expandWithin m pattern = expandWithin n pattern := by
  induction m generalizing n pattern with
  | zero =>
    obtain rfl := List.eq_nil_of_length_eq_zero (Nat.le_zero.mp hm)
    cases n with
    | zero => rfl
    | succ n => rfl
  | succ m ih =>
    cases n with
    | zero =>
      obtain rfl := List.eq_nil_of_length_eq_zero (Nat.le_zero.mp hn)
      rfl
    | succ n =>
      rw [expandWithin, expandWithin]
      cases found : Range.find? pattern with
      | none => rfl
      | some r =>
        refine congrArg List.flatten (List.map_congr_left fun k mem => ?_)
        have shorter := length_substitute_lt found mem
        exact ih (by omega) (by omega)

/-- The texts that a pattern stands for, as lists of characters. -/
def expand (pattern : List Char) : List (List Char) := expandWithin pattern.length pattern

theorem expandRanges_eq (pattern : String) :
    expandRanges pattern = (expand pattern.toList).map String.ofList := by
  rw [expandRanges, expand, String.length_toList]

theorem expand_of_find?_none {pattern : List Char} (h : Range.find? pattern = none) :
    expand pattern = [pattern] := by
  unfold expand
  cases pattern.length with
  | zero => rfl
  | succ n => rw [expandWithin, h]

/-- A pattern with a range expands to what its replacements expand to, in order. -/
theorem expand_of_find?_some {pattern : List Char} {r : Range} (h : Range.find? pattern = some r) :
    expand pattern = r.numbers.flatMap fun n => expand (r.substitute n) := by
  have rounds : expand pattern = expandWithin (pattern.length + 1) pattern :=
    expandWithin_congr le_rfl (Nat.le_succ _)
  rw [rounds, expandWithin, h]
  refine congrArg List.flatten (List.map_congr_left fun n mem => ?_)
  exact expandWithin_congr (length_substitute_lt h mem).le le_rfl

/-! ## Inert texts -/

namespace Range

/-- A text without ranges in which none starts, whatever follows. -/
def Inert (u : List Char) : Prop := ∀ w, find? (u ++ w) = (find? w).map (behind u)

theorem inert_nil : Inert [] := fun _ => Option.map_id'.symm

/-- Two inert texts are inert together, since no range begins in the first and ends behind it. -/
theorem Inert.append {u v : List Char} (hu : Inert u) (hv : Inert v) : Inert (u ++ v) := by
  intro w
  rw [List.append_assoc, hu, hv, Option.map_map, behind_behind]

theorem inert_of_forall_ne {u : List Char} (h : ∀ c ∈ u, c ≠ '[') : Inert u := by
  induction u with
  | nil => exact inert_nil
  | cons c u ih =>
    obtain ⟨head, tail⟩ := List.forall_mem_cons.mp h
    exact Inert.append (u := [c]) (find?_of_ne head) (ih tail)

/-- A number holds no bracket, so none of the ranges begins in it. -/
theorem inert_writePadded (width n : Nat) : Inert (Digits.writePadded width n) := by
  refine inert_of_forall_ne fun c mem eq => ?_
  have digit := Digits.isDigit_of_mem_writePadded mem
  rw [eq] at digit
  exact absurd digit (by decide)

/-- An inert text in front of a pattern is in front of each of the texts. -/
theorem Inert.expand_append {u : List Char} (h : Inert u) (w : List Char) :
    expand (u ++ w) = (expand w).map (u ++ ·) := by
  induction hn : w.length using Nat.strongRecOn generalizing w with
  | ind n ih =>
    have found := h w
    cases hw : find? w with
    | none =>
      rw [hw] at found
      rw [expand_of_find?_none found, expand_of_find?_none hw]
      rfl
    | some r =>
      rw [hw] at found
      rw [expand_of_find?_some found, expand_of_find?_some hw, List.map_flatMap]
      refine congrArg List.flatten (List.map_congr_left fun k mem => ?_)
      rw [substitute_behind]
      exact ih _ (hn ▸ length_substitute_lt hw mem) _ rfl

/-! ## What decides whether a range starts -/

/-- A character that is neither a digit nor a dash and so stands in no range before its end. -/
def IsBreak (c : Char) : Prop := c.isDigit = false ∧ c ≠ '-'

/-- A range whose bracket stands in front of a break ends no later than at the break. -/
theorem Opens.eq_append {v w first stop after : List Char}
    (h : Opens ('[' :: (v ++ w)) first stop after) (breaks : ∃ c ∈ v, IsBreak c) :
    ∃ rest, v = first ++ '-' :: (stop ++ ']' :: rest) ∧ after = rest ++ w := by
  have eq : v ++ w = (first ++ '-' :: stop) ++ ']' :: after := by
    rw [(List.cons.inj h.text_eq).2, List.append_assoc, List.cons_append]
  have inside : ¬ v ⊆ first ++ '-' :: stop := by
    intro sub
    obtain ⟨c, mem, digit, dash⟩ := breaks
    have place := sub mem
    rw [List.mem_append, List.mem_cons] at place
    rcases place with mem | rfl | mem
    · rw [h.first_bound.digits c mem] at digit
      cases digit
    · exact dash rfl
    · rw [h.stop_bound.digits c mem] at digit
      cases digit
  rcases List.append_eq_append_iff.mp eq with ⟨rest, front, -⟩ | ⟨rest, front, back⟩
  · exact absurd (front ▸ List.subset_append_left v rest) inside
  · cases rest with
    | nil =>
      rw [List.append_nil] at front
      exact absurd (front ▸ List.Subset.refl v) inside
    | cons c rest =>
      obtain ⟨rfl, rfl⟩ := List.cons.inj back
      refine ⟨rest, ?_, rfl⟩
      rw [front, List.append_assoc, List.cons_append]

end Range

end SurveyDispatch
