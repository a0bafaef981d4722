import SurveyDispatch.Number.Basic
import SurveyDispatch.Proofs.Text.Digits

/-!
# Number texts

The sign and the exponent of a number have several spellings, and reading takes all of them
(`Number.readExponent?_eq_some_iff`).

A number text is never empty and consists of digits, signs, points and exponent marks
(`Number.isNumberChar_of_read?`).  So a reader that takes such characters off the front of a
document takes the whole of it.

Whole numbers are read back from their texts (`Number.read?_write_integer`).
-/

namespace SurveyDispatch

namespace Number

/-! ## Signs and exponents -/

section

variable {negative : Bool} {text rest sign : List Char}

/-- The spellings of a sign. -/
inductive SpellsSign : Bool → List Char → Prop
  | none : SpellsSign false []
  | plus : SpellsSign false ['+']
  | minus : SpellsSign true ['-']

/-- A text does not start with a sign. -/
def Unsigned (text : List Char) : Prop := ∀ c ∈ text.head?, c ≠ '-' ∧ c ≠ '+'

/-- What is taken off the front is a spelling of the sign. -/
theorem spellsSign_of_splitSign (h : splitSign text = (negative, rest)) :
    ∃ sign, SpellsSign negative sign ∧ text = sign ++ rest := by
  unfold splitSign at h
  split at h
  · cases h
    exact ⟨_, .minus, rfl⟩
  · cases h
    exact ⟨_, .plus, rfl⟩
  · cases h
    exact ⟨_, .none, rfl⟩

/-- A spelling of a sign in front of a text without one is taken off as a whole. -/
theorem splitSign_append (signed : SpellsSign negative sign) (unsigned : Unsigned rest) :
    splitSign (sign ++ rest) = (negative, rest) := by
  cases signed with
  | none =>
    rw [List.nil_append]
    unfold splitSign
    split
    · exact absurd rfl (unsigned _ rfl).1
    · exact absurd rfl (unsigned _ rfl).2
    · rfl
  | plus => rfl
  | minus => rfl

theorem unsigned_of_digits {ds : List Char} (digits : ∀ c ∈ ds, c.isDigit = true) :
    Unsigned ds := by
  intro c mem
  have digit := digits c (List.mem_of_mem_head? mem)
  constructor <;> rintro rfl <;> cases digit

/-- A text does not go on with a digit or a point. -/
def Stops (rest : List Char) : Prop := ∀ c ∈ rest.head?, c.isDigit = false ∧ c ≠ '.'

/-- The spellings of an exponent. -/
inductive SpellsExponent : Option Int → List Char → Prop
  | none : SpellsExponent none []
  | some {mark : Char} {sign digits : List Char} {negative : Bool} {n : Nat}
      (marks : mark = 'e' ∨ mark = 'E') (signed : SpellsSign negative sign)
      (value : Digits.value? digits = some n) :
      SpellsExponent (some (if negative then -n else n)) (mark :: (sign ++ digits))

variable {exponent : Option Int}

theorem SpellsExponent.stops (h : SpellsExponent exponent text) : Stops text := by
  cases h with
  | none => exact fun _ mem => nomatch mem
  | some marks signed value =>
    rintro _ ⟨⟩
    rcases marks with rfl | rfl <;> decide

/-- A text is read as an exponent exactly if it spells one. -/
theorem readExponent?_eq_some_iff :
    readExponent? text = some exponent ↔ SpellsExponent exponent text := by
  constructor
  · intro h
    unfold readExponent? at h
    split at h
    · cases h
      exact .none
    next mark rest =>
      split at h
      next marks =>
        cases split : splitSign rest with
        | mk negative digits =>
          rw [split] at h
          obtain ⟨n, value, eq⟩ := Option.bind_eq_some_iff.mp h
          obtain ⟨sign, signed, rfl⟩ := spellsSign_of_splitSign split
          cases eq
          exact .some marks signed value
      · cases h
  · rintro (_ | ⟨marks, signed, value⟩)
    · rfl
    · have unsigned := unsigned_of_digits (Digits.isDigit_of_value? value)
      rw [readExponent?, if_pos marks, splitSign_append signed unsigned]
      simp only [value, Option.bind_eq_bind, Option.bind_some]
      rfl

end

/-! ## Characters of number texts -/

/-- Digits, signs, points and exponent marks. -/
def IsNumberChar (c : Char) : Prop :=
  c.isDigit = true ∨ c = '-' ∨ c = '+' ∨ c = '.' ∨ c = 'e' ∨ c = 'E'

/-- Digits in front keep a text one of number characters. -/
theorem isNumberChar_of_split {cs : List Char} (h : ∀ c ∈ (Digits.split cs).2, IsNumberChar c) :
    ∀ c ∈ cs, IsNumberChar c := by
  intro c mem
  rw [← List.takeWhile_append_dropWhile (p := Char.isDigit) (l := cs)] at mem
  rcases List.mem_append.mp mem with mem | mem
  · exact .inl (List.mem_takeWhile_imp mem)
  · exact h c mem

theorem isNumberChar_of_splitFraction {cs : List Char}
    (h : ∀ c ∈ (splitFraction cs).2, IsNumberChar c) : ∀ c ∈ cs, IsNumberChar c := by
  unfold splitFraction at h
  split at h
  · exact List.forall_mem_cons.mpr ⟨by simp [IsNumberChar], isNumberChar_of_split h⟩
  · exact h

theorem SpellsSign.isNumberChar {negative : Bool} {sign : List Char}
    (h : SpellsSign negative sign) : ∀ c ∈ sign, IsNumberChar c := by
  cases h <;> simp [IsNumberChar]

theorem SpellsExponent.isNumberChar {exponent : Option Int} {text : List Char}
    (h : SpellsExponent exponent text) : ∀ c ∈ text, IsNumberChar c := by
  cases h with
  | none => exact List.forall_mem_nil _
  | some marks signed value =>
    have digits := Digits.isDigit_of_value? value
    refine List.forall_mem_cons.mpr ⟨?_, List.forall_mem_append.mpr ⟨signed.isNumberChar, ?_⟩⟩
    · rcases marks with rfl | rfl <;> simp [IsNumberChar]
    · exact fun c mem => .inl (digits c mem)

/-- A number text is not empty and holds nothing else than a number. -/
theorem Literal.isNumberChar_of_read? {text : List Char} {l : Literal}
    (h : Literal.read? text = some l) : text ≠ [] ∧ ∀ c ∈ text, IsNumberChar c := by
  unfold Literal.read? at h
  obtain ⟨exponent, read, allowed⟩ := Option.bind_eq_some_iff.mp h
  have rest := isNumberChar_of_split (isNumberChar_of_splitFraction
    (readExponent?_eq_some_iff.mp read).isNumberChar)
  constructor
  · rintro rfl
    cases allowed
  · split at rest
    · exact List.forall_mem_cons.mpr ⟨by simp [IsNumberChar], rest⟩
    · exact rest

/-- A number text is not empty and holds nothing else than a number. -/
theorem isNumberChar_of_read? {text : List Char} {n : Number} (h : read? text = some n) :
    text ≠ [] ∧ ∀ c ∈ text, IsNumberChar c := by
  obtain ⟨l, literal, -⟩ := Option.bind_eq_some_iff.mp h
  exact Literal.isNumberChar_of_read? literal

/-! ## Literals -/

/-- The text of a fraction. -/
def fractionText : Option (List Char) → List Char
  | some ds => '.' :: ds
  | none => []

/-- The text of an exponent. -/
def exponentText : Option Int → List Char
  | some e => 'e' :: (if 0 ≤ e then '+' else '-') :: Digits.write e.natAbs
  | none => []

/-- The text of a literal. -/
def Literal.text (l : Literal) : List Char :=
  (if l.negative then ['-'] else []) ++
    (l.whole ++ (fractionText l.fraction ++ exponentText l.exponent))

/-- The parts that a literal can have. -/
structure Literal.Normal (l : Literal) : Prop where
  /-- The whole part consists of digits. -/
  whole_digits : ∀ c ∈ l.whole, c.isDigit = true
  /-- The whole part has a digit and no needless zero in front. -/
  whole_allowed : wholeAllowed l.whole = true
  /-- The fraction is not empty. -/
  fraction_nonempty : l.fraction ≠ some []
  /-- The fraction consists of digits. -/
  fraction_digits : ∀ ds ∈ l.fraction, ∀ c ∈ ds, c.isDigit = true

/-- The text of an exponent spells it. -/
theorem spellsExponent_exponentText (exponent : Option Int) :
    SpellsExponent exponent (exponentText exponent) := by
  cases exponent with
  | none => exact .none
  | some e =>
    have digits : Digits.value? (Digits.write e.natAbs) = some e.natAbs := by
      have nonempty : Digits.write e.natAbs ≠ [] :=
        List.ne_nil_of_length_pos Nat.length_toDigits_pos
      rw [Digits.value?, if_pos, Digits.value_write]
      exact ⟨nonempty, List.all_eq_true.mpr fun _ => Digits.isDigit_of_mem_write⟩
    by_cases positive : 0 ≤ e
    · have spelled := SpellsExponent.some (.inl rfl) .plus digits
      rw [if_neg Bool.false_ne_true, Int.natAbs_of_nonneg positive] at spelled
      rw [exponentText, if_pos positive]
      exact spelled
    · have spelled := SpellsExponent.some (.inl rfl) .minus digits
      have value : -(e.natAbs : Int) = e := by omega
      rw [if_pos rfl, value] at spelled
      rw [exponentText, if_neg positive]
      exact spelled

/-- The text of a fraction is taken off as a whole if no digit follows. -/
theorem splitFraction_append {fraction : Option (List Char)} {rest : List Char}
    (digits : ∀ ds ∈ fraction, ∀ c ∈ ds, c.isDigit = true) (stops : Stops rest) :
    splitFraction (fractionText fraction ++ rest) = (fraction, rest) := by
  cases fraction with
  | none =>
    rw [fractionText, List.nil_append]
    unfold splitFraction
    split
    · exact absurd rfl (stops _ rfl).2
    · rfl
  | some ds =>
    rw [fractionText, List.cons_append, splitFraction,
      Digits.split_append_of_stops (digits ds rfl) fun c mem => (stops c mem).1]

/-- The whole digits end where the fraction begins. -/
theorem split_append_fractionText {whole rest : List Char}
    (digits : ∀ c ∈ whole, c.isDigit = true) (fraction : Option (List Char)) (stops : Stops rest) :
    Digits.split (whole ++ (fractionText fraction ++ rest)) =
      (whole, fractionText fraction ++ rest) := by
  refine Digits.split_append_of_stops digits ?_
  cases fraction with
  | none => exact fun c mem => (stops c mem).1
  | some ds =>
    rintro _ ⟨⟩
    rfl

/-- A literal is read back from its text. -/
theorem Literal.read?_text {l : Literal} (h : l.Normal) : Literal.read? l.text = some l := by
  have spelled := spellsExponent_exponentText l.exponent
  have stops := spelled.stops
  have whole := split_append_fractionText h.whole_digits l.fraction stops
  have fraction := splitFraction_append h.fraction_digits stops
  have exponent := readExponent?_eq_some_iff.mpr spelled
  have allowed : wholeAllowed l.whole = true ∧ l.fraction ≠ some [] :=
    ⟨h.whole_allowed, h.fraction_nonempty⟩
  unfold Literal.read? Literal.text
  cases minus : l.negative with
  | true =>
    simp only [if_true, List.singleton_append, whole, fraction, exponent, Option.bind_eq_bind,
      Option.bind_some]
    rw [if_pos allowed, ← minus]
  | false =>
    -- The whole part starts with a digit and not with the sign that is taken off.
    have unsigned : ∀ rest, l.whole ++ (fractionText l.fraction ++ exponentText l.exponent) ≠
        '-' :: rest := by
      intro rest eq
      cases digits : l.whole with
      | nil =>
        have none := h.whole_allowed
        rw [digits] at none
        cases none
      | cons c cs =>
        rw [digits] at eq
        have digit := h.whole_digits c (digits ▸ List.mem_cons_self)
        rw [(List.cons.inj eq).1] at digit
        cases digit
    simp only [Bool.false_eq_true, if_false, List.nil_append, whole, fraction, exponent,
      Option.bind_eq_bind, Option.bind_some]
    rw [if_pos allowed, ← minus]

/-! ## Whole numbers -/

/-- A written number has no leading zero that is not allowed. -/
theorem wholeAllowed_write (n : Nat) : wholeAllowed (Digits.write n) = true := by
  rcases Nat.eq_zero_or_pos n with rfl | positive
  · rfl
  · obtain ⟨c, cs, front, ne⟩ := Digits.write_eq_cons positive
    rw [front]
    unfold wholeAllowed
    split
    · next eq => cases eq
    · next eq =>
      cases eq
      exact absurd rfl ne
    · rfl

/-- The literal of a whole number. -/
def wholeLiteral (i : Int) : Literal := ⟨i < 0, Digits.write i.natAbs, none, none⟩

/-- The literal of a whole number is one that can be written. -/
theorem normal_wholeLiteral (i : Int) : (wholeLiteral i).Normal where
  whole_digits _ := Digits.isDigit_of_mem_write
  whole_allowed := wholeAllowed_write i.natAbs
  fraction_nonempty := nofun
  fraction_digits := nofun

/-- A whole number is written as the text of its literal. -/
theorem text_wholeLiteral (i : Int) (h : InRange i) :
    (wholeLiteral i).text = write (integer i h) := by
  simp only [Literal.text, wholeLiteral, fractionText, exponentText, List.append_nil, write,
    decide_eq_true_eq]

/-- A whole number is read back from its text. -/
theorem read?_write_integer (i : Int) (h : InRange i) :
    read? (write (integer i h)) = some (integer i h) := by
  have digits := Digits.value_write i.natAbs
  have minus : ¬(decide (i < 0) = true ∧ i.natAbs = 0) := by
    rintro ⟨negative, zero⟩
    have := of_decide_eq_true negative
    omega
  have signed : (if decide (i < 0) then -(i.natAbs : Int) else i.natAbs) = i := by
    simp only [decide_eq_true_eq]
    omega
  rw [read?, ← text_wholeLiteral, Literal.read?_text (normal_wholeLiteral i)]
  simp only [wholeLiteral, Option.bind_eq_bind, Option.bind_some, Literal.toInt?, digits, minus,
    signed, ofInt?, dif_pos h, not_false_eq_true, and_self, if_true]

end Number

end SurveyDispatch
