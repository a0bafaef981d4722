import SurveyDispatch.Proofs.Document.Equality
import SurveyDispatch.Rule.Predicate

/-!
# One order of values

The predicates compare two numbers, two texts or two truth values, and no other pair is ordered
(`Document.Ranked`).  Numbers that are decimals go by their units, texts and truth values by
themselves.  So each of the three kinds is ordered by the order of its keys, and the laws of the
order of documents are those of these three orders.

Equality of two numbers also goes by their units, and equality of other values is that of documents
(`Document.sameValue_iff`).  So equal values have one key, and the order does not tell them apart
(`Document.order?_congr`).
-/

namespace SurveyDispatch

/-- The units of 10^-28 of a number that is a decimal. -/
def Number.units (n : Number) : Int := (n.toDecimal?.map Decimal.units).getD 0

namespace Document

/-- A value that is compared exactly: one that is no number, or a number that is a decimal. -/
structure Comparable (d : Document) : Prop where
  /-- The names in each record are distinct. -/
  distinct : d.Distinct
  /-- A number is a decimal. -/
  decimal : ∀ n, d = number n → ∃ a, n.toDecimal? = some a

/-- Two numbers, two texts or two truth values. -/
inductive Ranked : Document → Document → Prop where
  | number (m n : Number) : Ranked (number m) (number n)
  | text (s t : String) : Ranked (text s) (text t)
  | bool (b c : Bool) : Ranked (bool b) (bool c)

variable {a b c : Document}

/-- Every whole number is a decimal. -/
theorem comparable_integer {i : Int} {inRange : Number.InRange i} :
    (number (.integer i inRange)).Comparable := by
  refine ⟨trivial, ?_⟩
  rintro _ ⟨⟩
  have small : i.natAbs < 0x1000000000000000000000000 := by
    obtain ⟨low, high⟩ := inRange
    omega
  exact ⟨_, dif_pos ⟨small, by decide⟩⟩

theorem Ranked.symm (h : Ranked a b) : Ranked b a := by
  cases h with
  | number m n => exact .number n m
  | text s t => exact .text t s
  | bool b c => exact .bool c b

/-! ## Order -/

theorem ranked_of_order? {o : Ordering} (h : a.order? b = some o) : Ranked a b := by
  unfold order? at h
  split at h
  next m n => exact .number m n
  next s t => exact .text s t
  next b c => exact .bool b c
  next => cases h

theorem order?_of_not_ranked (h : ¬Ranked a b) : a.order? b = none := by
  cases order : a.order? b with
  | none => rfl
  | some o => exact absurd (ranked_of_order? order) h

theorem order?_number {m n : Number} (hm : (number m).Comparable) (hn : (number n).Comparable) :
    (number m).order? (number n) = some (compare m.units n.units) := by
  obtain ⟨d, hd⟩ := hm.decimal m rfl
  obtain ⟨e, he⟩ := hn.decimal n rfl
  rw [order?, Number.order?, Number.units, Number.units, hd, he]
  rfl

/-- The order of two values is that of the swapped ones, reversed. -/
theorem order?_swap (ha : a.Comparable) (hb : b.Comparable) :
    b.order? a = (a.order? b).map Ordering.swap := by
  by_cases ranked : Ranked a b
  · cases ranked with
    | number m n =>
      rw [order?_number ha hb, order?_number hb ha, Option.map_some, ← Std.OrientedCmp.eq_swap]
    | text s t => exact congrArg some Std.OrientedCmp.eq_swap
    | bool b c => exact congrArg some Std.OrientedCmp.eq_swap
  · rw [order?_of_not_ranked ranked, order?_of_not_ranked (mt Ranked.symm ranked), Option.map_none]

/-- A value above one that is above a third is above the third. -/
theorem order?_trans (ha : a.Comparable) (hb : b.Comparable) (hc : c.Comparable)
    (h : a.order? b = some .gt) (h' : b.order? c = some .gt) : a.order? c = some .gt := by
  have ranked := ranked_of_order? h
  have ranked' := ranked_of_order? h'
  cases ranked with
  | number m n =>
    obtain ⟨_, k⟩ := ranked'
    rw [order?_number ha hb] at h
    rw [order?_number hb hc] at h'
    rw [order?_number ha hc]
    exact congrArg some (Std.TransCmp.gt_trans (Option.some.inj h) (Option.some.inj h'))
  | text s t =>
    obtain ⟨_, u⟩ := ranked'
    exact congrArg some (Std.TransCmp.gt_trans (Option.some.inj h) (Option.some.inj h'))
  | bool b c =>
    obtain ⟨_, d⟩ := ranked'
    exact congrArg some (Std.TransCmp.gt_trans (Option.some.inj h) (Option.some.inj h'))

/-! ## Equality -/

theorem sameValue_of_ne_number (h : ∀ m, a ≠ number m) : a.sameValue b = a.equal b := by
  cases a with
  | number m => exact absurd rfl (h m)
  | _ => rfl

theorem sameValue_number_iff {m n : Number} (hm : (number m).Comparable)
    (hn : (number n).Comparable) :
    (number m).sameValue (number n) = true ↔ m.units = n.units := by
  have order : (number m).sameValue (number n) = ((number m).order? (number n) == some .eq) := rfl
  rw [order, order?_number hm hn, beq_iff_eq, Option.some_inj, Std.LawfulEqCmp.compare_eq_iff_eq]

/-- Two numbers are equal if they have the same units, and other values if they are equal
documents. -/
theorem sameValue_iff (ha : a.Comparable) (hb : b.Comparable) :
    a.sameValue b = true ↔
      (∃ m n, a = number m ∧ b = number n ∧ m.units = n.units) ∨
        (∀ m, a ≠ number m) ∧ a.equal b = true := by
  by_cases numbers : ∃ m, a = number m
  · obtain ⟨m, rfl⟩ := numbers
    cases b with
    | number n => simp [sameValue_number_iff ha hb]
    | _ => simp [sameValue, equal]
  · have notNumber : ∀ m, a ≠ number m := fun m eq => numbers ⟨m, eq⟩
    simp [sameValue_of_ne_number notNumber, notNumber]

/-- A comparable value has the same value as itself. -/
theorem sameValue_refl (ha : a.Comparable) : a.sameValue a = true := by
  rw [sameValue_iff ha ha]
  by_cases numbers : ∃ m, a = number m
  · obtain ⟨m, rfl⟩ := numbers
    exact .inl ⟨m, m, rfl, rfl, rfl⟩
  · exact .inr ⟨fun m eq => numbers ⟨m, eq⟩, equal_refl ha.distinct⟩

/-- Only a number equals a number. -/
theorem ne_number_of_equal (h : a.equal b = true) (notNumber : ∀ m, a ≠ number m) :
    ∀ n, b ≠ number n := by
  rintro n rfl
  cases a with
  | number m => exact notNumber m rfl
  | _ => cases h

/-- Having the same value is symmetric among comparable values. -/
theorem sameValue_symm (ha : a.Comparable) (hb : b.Comparable) (h : a.sameValue b = true) :
    b.sameValue a = true := by
  rw [sameValue_iff hb ha]
  rcases (sameValue_iff ha hb).mp h with ⟨m, n, rfl, rfl, same⟩ | ⟨notNumber, same⟩
  · exact .inl ⟨n, m, rfl, rfl, same.symm⟩
  · exact .inr ⟨ne_number_of_equal same notNumber, equal_symm ha.distinct hb.distinct same⟩

/-- Having the same value is transitive among comparable values. -/
theorem sameValue_trans (ha : a.Comparable) (hb : b.Comparable) (hc : c.Comparable)
    (h : a.sameValue b = true) (h' : b.sameValue c = true) : a.sameValue c = true := by
  rw [sameValue_iff ha hc]
  rcases (sameValue_iff ha hb).mp h with ⟨m, n, rfl, rfl, same⟩ | ⟨notNumber, same⟩
  · rcases (sameValue_iff hb hc).mp h' with ⟨_, k, ⟨⟩, rfl, same'⟩ | ⟨notNumber, -⟩
    · exact .inl ⟨m, k, rfl, rfl, same.trans same'⟩
    · exact absurd rfl (notNumber n)
  · rcases (sameValue_iff hb hc).mp h' with ⟨n, _, rfl, -, -⟩ | ⟨-, same'⟩
    · exact absurd rfl (ne_number_of_equal same notNumber n)
    · exact .inr ⟨notNumber, equal_trans ha.distinct hb.distinct hc.distinct same same'⟩

/-- There are no fields in a number. -/
theorem Reordered.eq_number {m : Number} (h : Reordered a b) (ha : a = number m) :
    b = number m := by
  induction h with
  | refl d => exact ha
  | trans _ _ ih ih' => exact ih' (ih ha)
  | _ => cases ha

/-- The order of fields does not count. -/
theorem sameValue_of_reordered (ha : a.Comparable) (h : Reordered a b) :
    a.sameValue b = true := by
  by_cases numbers : ∃ m, a = number m
  · obtain ⟨m, rfl⟩ := numbers
    rw [h.eq_number rfl]
    exact sameValue_refl ha
  · rw [sameValue_of_ne_number fun m eq => numbers ⟨m, eq⟩]
    exact (h.distinct_equal ha.distinct).2

/-- The order does not tell equal values apart. -/
theorem order?_congr (ha : a.Comparable) (hb : b.Comparable) (hc : c.Comparable)
    (h : a.sameValue b = true) : a.order? c = b.order? c := by
  rcases (sameValue_iff ha hb).mp h with ⟨m, n, rfl, rfl, same⟩ | ⟨notNumber, same⟩
  · cases c with
    | number k => rw [order?_number ha hc, order?_number hb hc, same]
    | _ => rfl
  · cases a with
    | null => rw [← null_equal_iff.mp same]
    | bool p => rw [← bool_equal_iff.mp same]
    | number m => exact absurd rfl (notNumber m)
    | text s => rw [← text_equal_iff.mp same]
    | list xs =>
      obtain ⟨ys, rfl, -⟩ := list_equal_iff.mp same
      cases c <;> rfl
    | record fs =>
      obtain ⟨gs, rfl, -⟩ := (record_equal_iff ha.distinct hb.distinct).mp same
      cases c <;> rfl

/-- Values of one kind are ordered, and equal if neither comes first. -/
theorem Ranked.order (h : Ranked a b) (ha : a.Comparable) (hb : b.Comparable) :
    ∃ o, a.order? b = some o ∧ (a.sameValue b = true ↔ o = .eq) := by
  cases h with
  | number m n =>
    refine ⟨compare m.units n.units, order?_number ha hb, ?_⟩
    rw [sameValue_number_iff ha hb, Std.LawfulEqCmp.compare_eq_iff_eq]
  | text s t =>
    refine ⟨compare s t, rfl, ?_⟩
    rw [Std.LawfulEqCmp.compare_eq_iff_eq]
    exact text_equal_iff.trans (Iff.of_eq (text.injEq s t))
  | bool p q =>
    refine ⟨compare p q, rfl, ?_⟩
    rw [Std.LawfulEqCmp.compare_eq_iff_eq]
    exact bool_equal_iff.trans (Iff.of_eq (bool.injEq p q))

theorem order?_self_ne_gt (ha : a.Comparable) : a.order? a ≠ some .gt := by
  intro after
  obtain ⟨o, order, same⟩ := (ranked_of_order? after).order ha ha
  rw [same.mp (sameValue_refl ha), after] at order
  cases order

end Document

namespace Predicate

open Document

variable {a b c : Document}

theorem test_bigger_iff : (bigger b).test (some a) = true ↔ a.order? b = some .gt :=
  beq_iff_eq

theorem test_smaller_iff : (smaller b).test (some a) = true ↔ a.order? b = some .lt :=
  beq_iff_eq

/-- A value comes after another one exactly when that one comes before it. -/
theorem test_bigger_eq (ha : a.Comparable) (hb : b.Comparable) :
    (bigger b).test (some a) = (smaller a).test (some b) := by
  rw [Bool.eq_iff_iff, test_bigger_iff, test_smaller_iff, order?_swap ha hb]
  cases a.order? b with
  | none => simp
  | some o => cases o <;> simp

/-- Equal values pass the same tests, and they make the same tests of other values. -/
theorem tests_congr (ha : a.Comparable) (hb : b.Comparable) (hc : c.Comparable)
    (same : a.sameValue b = true) :
    (bigger c).test (some a) = (bigger c).test (some b) ∧
      (smaller c).test (some a) = (smaller c).test (some b) ∧
      (bigger a).test (some c) = (bigger b).test (some c) ∧
      (smaller a).test (some c) = (smaller b).test (some c) := by
  have left := order?_congr ha hb hc same
  have right : c.order? a = c.order? b := by
    rw [order?_swap ha hc, left, order?_swap hb hc]
  refine ⟨?_, ?_, ?_, ?_⟩
  · rw [Bool.eq_iff_iff, test_bigger_iff, test_bigger_iff, left]
  · rw [Bool.eq_iff_iff, test_smaller_iff, test_smaller_iff, left]
  · rw [Bool.eq_iff_iff, test_bigger_iff, test_bigger_iff, right]
  · rw [Bool.eq_iff_iff, test_smaller_iff, test_smaller_iff, right]

/-- Of two values of one kind exactly one test holds. -/
theorem count_of_ranked (ranked : Ranked a b) (ha : a.Comparable) (hb : b.Comparable) :
    [(equals b).test (some a), (bigger b).test (some a),
      (smaller b).test (some a)].count true = 1 := by
  obtain ⟨o, order, same⟩ := ranked.order ha hb
  have equal : (equals b).test (some a) = (o == .eq) := by
    rw [Bool.eq_iff_iff, beq_iff_eq]
    exact same
  have bigger : (bigger b).test (some a) = (o == .gt) := by
    rw [Bool.eq_iff_iff, test_bigger_iff, order, Option.some_inj, beq_iff_eq]
  have smaller : (smaller b).test (some a) = (o == .lt) := by
    rw [Bool.eq_iff_iff, test_smaller_iff, order, Option.some_inj, beq_iff_eq]
  rw [equal, bigger, smaller]
  cases o <;> rfl

/-- Values of two kinds are not ordered. -/
theorem tests_of_not_ranked (notRanked : ¬Ranked a b) :
    (bigger b).test (some a) = false ∧ (smaller b).test (some a) = false := by
  have order := order?_of_not_ranked notRanked
  constructor
  · rw [← Bool.not_eq_true, test_bigger_iff, order]
    nofun
  · rw [← Bool.not_eq_true, test_smaller_iff, order]
    nofun

/-- The laws of equality and order of exactly compared values. -/
theorem comparisons_cohere (ha : a.Comparable) (hb : b.Comparable) (hc : c.Comparable) :
    a.sameValue a = true ∧
      (a.sameValue b = true → b.sameValue a = true) ∧
      (a.sameValue b = true → b.sameValue c = true → a.sameValue c = true) ∧
      (Reordered a b → a.sameValue b = true) ∧
      (bigger a).test (some a) = false ∧
      ((bigger b).test (some a) = true → (bigger c).test (some b) = true →
        (bigger c).test (some a) = true) ∧
      (bigger b).test (some a) = (smaller a).test (some b) ∧
      (a.sameValue b = true →
        (bigger c).test (some a) = (bigger c).test (some b) ∧
          (smaller c).test (some a) = (smaller c).test (some b) ∧
          (bigger a).test (some c) = (bigger b).test (some c) ∧
          (smaller a).test (some c) = (smaller b).test (some c)) ∧
      (Ranked a b → [(equals b).test (some a), (bigger b).test (some a),
        (smaller b).test (some a)].count true = 1) ∧
      (¬Ranked a b → (bigger b).test (some a) = false ∧ (smaller b).test (some a) = false) := by
  refine ⟨sameValue_refl ha, sameValue_symm ha hb, sameValue_trans ha hb hc,
    sameValue_of_reordered ha, ?_, ?_, test_bigger_eq ha hb, tests_congr ha hb hc, ?_,
    tests_of_not_ranked⟩
  · rw [← Bool.not_eq_true, test_bigger_iff]
    exact order?_self_ne_gt ha
  · rw [test_bigger_iff, test_bigger_iff, test_bigger_iff]
    exact order?_trans ha hb hc
  · intro ranked
    exact count_of_ranked ranked ha hb

/-- The number 1.5. -/
def oneAndHalf : Number := .float ⟨false, 6755399441055744, 1022, by decide⟩

/-- The number 1.5 lies between two whole numbers, and the order of fields does not count inside a
list. -/
theorem comparisons_cohere_between :
    (bigger (ofNat 1)).test (some (ofNat 2)) = true ∧
      (equals (number oneAndHalf)).test (some (ofNat 2)) = false ∧
      (smaller (ofNat 2)).test (some (number oneAndHalf)) = true ∧
      (list [record [("a", null), ("b", ofNat 2)]]).sameValue
        (list [record [("b", ofNat 2), ("a", null)]]) = true := by
  have two : (ofNat 2).Comparable := comparable_integer
  have one : (ofNat 1).Comparable := comparable_integer
  have half : (number oneAndHalf).Comparable := by
    refine ⟨trivial, ?_⟩
    rintro _ ⟨⟩
    exact ⟨⟨false, 15, 1, by decide, by decide⟩, by decide +kernel⟩
  have fields {front rest : String × Document} (h : front.1 ≠ rest.1) (hf : front.2.Distinct)
      (hr : rest.2.Distinct) : (list [record [front, rest]]).Comparable := by
    constructor
    · simp [Distinct, DistinctItems, DistinctFields, h, hf, hr]
    · rintro _ ⟨⟩
  have above : (bigger (number oneAndHalf)).test (some (ofNat 2)) = true := by decide +kernel
  have below : (bigger (ofNat 1)).test (some (number oneAndHalf)) = true := by decide +kernel
  obtain ⟨-, -, -, -, -, chain, turn, -, only, -⟩ := comparisons_cohere two half one
  obtain ⟨-, -, -, reordered, -⟩ := comparisons_cohere
    (fields (by decide) trivial trivial : (list [record [("a", null), ("b", ofNat 2)]]).Comparable)
    (fields (by decide) trivial trivial : (list [record [("b", ofNat 2), ("a", null)]]).Comparable)
    one
  refine ⟨chain above below, ?_, turn ▸ above, reordered ?_⟩
  · have once := only (.number _ _)
    rw [← Bool.not_eq_true]
    intro equal
    rw [equal, above] at once
    cases once' : (smaller (number oneAndHalf)).test (some (ofNat 2)) <;> simp [once'] at once
  · exact @Reordered.item [] [] _ _ (.fields (.swap _ _ _))

end Predicate

end SurveyDispatch
