import SurveyDispatch.Number.Real64
import SurveyDispatch.Proofs.Number.Rounding
import SurveyDispatch.Proofs.Number.Texts

/-!
# How numbers are spelled

More texts are read as a number with infinities than as a number of a document: an optional sign of
either kind, then a word for an infinity or for no number, or digits before or after a point with an
optional exponent (`Real64.Denotes`).  Reading finds out exactly what a text denotes
(`Real64.read_eq_ok_iff`).

So a text is read as a finite number if it spells a literal whose value is in range
(`Real64.read_finite_iff`), and as something else if it is one of the words or its value is too
large (`Real64.read_not_finite_iff`).
-/

namespace SurveyDispatch

namespace Number

variable {text rest : List Char}

/-! ## Decimals -/

/-- The spellings of the digits, the point and the exponent of a literal. -/
structure SpellsDecimal (l : Literal) (text : List Char) : Prop where
  /-- The whole part consists of digits. -/
  whole_digits : ∀ c ∈ l.whole, c.isDigit = true
  /-- The fraction consists of digits. -/
  fraction_digits : ∀ ds ∈ l.fraction, ∀ c ∈ ds, c.isDigit = true
  /-- There is a digit before or after the point. -/
  nonempty : l.whole ++ l.fraction.getD [] ≠ []
  /-- The exponent comes last. -/
  parts : ∃ exponent, SpellsExponent l.exponent exponent ∧
    text = l.whole ++ (fractionText l.fraction ++ exponent)

/-- What is taken off the front is the text of a fraction. -/
theorem of_splitFraction {fraction : Option (List Char)}
    (h : splitFraction text = (fraction, rest)) :
    text = fractionText fraction ++ rest ∧ ∀ ds ∈ fraction, ∀ c ∈ ds, c.isDigit = true := by
  unfold splitFraction at h
  split at h
  next behind =>
    cases h
    obtain ⟨split, digits⟩ := Digits.of_split (Eq.refl (Digits.split behind))
    refine ⟨congrArg (List.cons '.') split, ?_⟩
    rintro _ ⟨⟩
    exact digits
  · cases h
    exact ⟨rfl, nofun⟩

/-- A decimal starts with a digit or a point. -/
theorem SpellsDecimal.front {l : Literal} (h : SpellsDecimal l text) :
    ∃ c rest, text = c :: rest ∧ (c.isDigit = true ∨ c = '.') := by
  obtain ⟨exponent, -, rfl⟩ := h.parts
  cases whole : l.whole with
  | cons c rest => exact ⟨c, _, rfl, .inl (h.whole_digits c (whole ▸ List.mem_cons_self))⟩
  | nil =>
    cases fraction : l.fraction with
    | some ds => exact ⟨'.', _, rfl, .inr rfl⟩
    | none => exact absurd (by rw [whole, fraction]; rfl) h.nonempty

end Number

namespace Real64

open Number (Literal SpellsSign SpellsDecimal Unsigned)

variable {negative : Bool} {text sign : List Char} {x : Real64} {l : Literal}

/-- The number that a literal stands for. -/
def ofLiteral (l : Literal) : Real64 :=
  ofDecimal l.negative (Digits.value (l.whole ++ l.fraction.getD []))
    (l.exponent.getD 0 - (l.fraction.getD []).length)

/-- A text is read as a decimal exactly if it spells a literal of that value. -/
theorem readDecimal?_eq_some_iff :
    readDecimal? negative text = some x ↔
      ∃ l : Literal, l.negative = negative ∧ SpellsDecimal l text ∧ x = ofLiteral l := by
  constructor
  · intro h
    cases whole : Digits.split text with
    | mk digits behind =>
      cases fraction : Number.splitFraction behind with
      | mk places exponentText =>
        simp only [readDecimal?, whole, fraction, Option.bind_eq_bind] at h
        obtain ⟨exponent, read, made⟩ := Option.bind_eq_some_iff.mp h
        split at made
        · cases made
        next nonempty =>
          obtain ⟨rfl, digits⟩ := Digits.of_split whole
          obtain ⟨rfl, fractionDigits⟩ := Number.of_splitFraction fraction
          exact ⟨⟨negative, _, _, exponent⟩, rfl, ⟨digits, fractionDigits, nonempty, _,
            Number.readExponent?_eq_some_iff.mp read, rfl⟩, (Option.some.inj made).symm⟩
  · rintro ⟨l, rfl, ⟨digits, fractionDigits, nonempty, exponent, spelled, rfl⟩, rfl⟩
    have whole := Number.split_append_fractionText digits l.fraction spelled.stops
    have fraction := Number.splitFraction_append fractionDigits spelled.stops
    have read := Number.readExponent?_eq_some_iff.mpr spelled
    simp only [readDecimal?, whole, fraction, read, Option.bind_eq_bind, Option.bind_some,
      if_neg nonempty]
    rfl

/-! ## Words -/

/-- A text is a word in letters of either case. -/
def IsWord (word : String) (text : List Char) : Prop := text.map Char.toLower = word.toList

/-- The words for an infinity. -/
def IsInfinity (text : List Char) : Prop := IsWord "inf" text ∨ IsWord "infinity" text

/-- The words for what is no finite number. -/
def IsSpecial (text : List Char) : Prop := IsInfinity text ∨ IsWord "nan" text

instance (word : String) (text : List Char) : Decidable (IsWord word text) := by
  unfold IsWord; infer_instance

instance (text : List Char) : Decidable (IsInfinity text) := by unfold IsInfinity; infer_instance

/-- The words for special numbers are tried before decimals. -/
theorem readUnsigned?_eq :
    readUnsigned? negative text =
      if IsInfinity text then some (.infinite negative)
      else if IsWord "nan" text then some .undefined
      else readDecimal? negative text := by
  have word : ∀ word, String.ofList (text.map Char.toLower) = word ↔ IsWord word text := by
    intro word
    rw [IsWord, ← String.toList_inj, String.toList_ofList]
  simp only [readUnsigned?, word, IsInfinity]

/-- A word starts with its first letter. -/
theorem IsWord.front {word : String} {letter : Char} {letters : List Char}
    (spelled : word.toList = letter :: letters) (h : IsWord word text) :
    ∃ c rest, text = c :: rest ∧ c.toLower = letter := by
  rw [IsWord, spelled] at h
  obtain ⟨c, rest, rfl, lower, -⟩ := List.map_eq_cons_iff.mp h
  exact ⟨c, rest, rfl, lower⟩

/-- The words start with a letter. -/
theorem IsSpecial.front (h : IsSpecial text) :
    ∃ c rest, text = c :: rest ∧ (c.toLower = 'i' ∨ c.toLower = 'n') := by
  rcases h with (h | h) | h
  · obtain ⟨c, rest, eq, lower⟩ := h.front rfl
    exact ⟨c, rest, eq, .inl lower⟩
  · obtain ⟨c, rest, eq, lower⟩ := h.front rfl
    exact ⟨c, rest, eq, .inl lower⟩
  · obtain ⟨c, rest, eq, lower⟩ := h.front rfl
    exact ⟨c, rest, eq, .inr lower⟩

theorem IsSpecial.unsigned (h : IsSpecial text) : Unsigned text := by
  obtain ⟨c, rest, rfl, lower⟩ := h.front
  rintro _ ⟨⟩
  constructor
  · rintro rfl
    revert lower
    decide
  · rintro rfl
    revert lower
    decide

/-- Only letters have a lower case. -/
theorem toLower_of_isDigit {c : Char} (h : c.isDigit = true) : c.toLower = c := by
  obtain ⟨-, below⟩ := Char.isDigit_iff_toNat.mp h
  refine dif_neg fun upper => ?_
  have above : 'A'.toNat ≤ c.toNat := UInt32.le_iff_toNat_le.mp upper.1
  exact absurd (above.trans below) (by decide)

/-- No word is a decimal. -/
theorem not_isSpecial_of_spellsDecimal (h : SpellsDecimal l text) : ¬ IsSpecial text := by
  intro special
  obtain ⟨c, rest, rfl, lower⟩ := special.front
  obtain ⟨_, _, ⟨⟩, digit | rfl⟩ := h.front
  · rw [toLower_of_isDigit digit] at lower
    rcases lower with rfl | rfl <;> cases digit
  · revert lower
    decide

/-- No spelling of a decimal starts with a sign. -/
theorem unsigned_of_spellsDecimal (h : SpellsDecimal l text) : Unsigned text := by
  obtain ⟨c, rest, rfl, digit | rfl⟩ := h.front
  · rintro _ ⟨⟩
    constructor <;> rintro rfl <;> cases digit
  · rintro _ ⟨⟩
    decide

/-! ## Texts -/

/-- What a text denotes. -/
inductive Denotes : List Char → Real64 → Prop
  | infinite {negative : Bool} {sign text : List Char} (signed : SpellsSign negative sign)
      (word : IsInfinity text) : Denotes (sign ++ text) (.infinite negative)
  | undefined {negative : Bool} {sign text : List Char} (signed : SpellsSign negative sign)
      (word : IsWord "nan" text) : Denotes (sign ++ text) .undefined
  | decimal {l : Literal} {sign text : List Char} (signed : SpellsSign l.negative sign)
      (spelled : SpellsDecimal l text) : Denotes (sign ++ text) (ofLiteral l)

theorem readUnsigned?_of_infinity (h : IsInfinity text) :
    readUnsigned? negative text = some (.infinite negative) := by
  rw [readUnsigned?_eq, if_pos h]

theorem readUnsigned?_of_nan (h : IsWord "nan" text) :
    readUnsigned? negative text = some .undefined := by
  have other : ¬ IsInfinity text := by
    rintro (inf | infinity)
    · exact absurd (h.symm.trans inf) (by decide)
    · exact absurd (h.symm.trans infinity) (by decide)
  rw [readUnsigned?_eq, if_neg other, if_pos h]

/-- A spelling of a decimal is not a word, and so it is read as the decimal. -/
theorem readUnsigned?_of_spellsDecimal (h : SpellsDecimal l text) :
    readUnsigned? l.negative text = some (ofLiteral l) := by
  obtain ⟨noInfinity, noNan⟩ := not_or.mp (not_isSpecial_of_spellsDecimal h)
  rw [readUnsigned?_eq, if_neg noInfinity, if_neg noNan]
  exact readDecimal?_eq_some_iff.mpr ⟨l, rfl, h, rfl⟩

/-- A signed text is read as its unsigned rest says. -/
theorem read_append (signed : SpellsSign negative sign) (unsigned : Unsigned text)
    (h : readUnsigned? negative text = some x) : read (sign ++ text) = .ok x := by
  have nonempty : text ≠ [] := by
    rintro rfl
    cases h
  have some : (sign ++ text).isEmpty = false := by simp [nonempty]
  simp only [read, some, Number.splitSign_append signed unsigned, h, Bool.false_eq_true, if_false]

/-- Reading finds what a text denotes. -/
theorem read_eq_ok_iff : read text = .ok x ↔ Denotes text x := by
  constructor
  · intro h
    unfold read at h
    split at h
    · cases h
    · cases split : Number.splitSign text with
      | mk negative rest =>
        rw [split] at h
        obtain ⟨sign, signed, rfl⟩ := Number.spellsSign_of_splitSign split
        dsimp only at h
        split at h
        next y read =>
          cases h
          rw [readUnsigned?_eq] at read
          split at read
          next word =>
            cases read
            exact .infinite signed word
          · split at read
            next word =>
              cases read
              exact .undefined signed word
            · obtain ⟨l, rfl, spelled, rfl⟩ := readDecimal?_eq_some_iff.mp read
              exact .decimal signed spelled
        · cases h
  · rintro (⟨signed, word⟩ | ⟨signed, word⟩ | ⟨signed, spelled⟩)
    · exact read_append signed (IsSpecial.unsigned (.inl word)) (readUnsigned?_of_infinity word)
    · exact read_append signed (IsSpecial.unsigned (.inr word)) (readUnsigned?_of_nan word)
    · exact read_append signed (unsigned_of_spellsDecimal spelled)
        (readUnsigned?_of_spellsDecimal spelled)

/-! ## Finite numbers -/

/-- The number is finite. -/
def IsFinite (x : Real64) : Prop := ∃ value, x = .finite value

/-- Without its sign, a literal denotes its digits times a power of ten. -/
theorem abs_denoted (l : Literal) :
    |l.denoted| = Digits.value (l.whole ++ l.fraction.getD []) *
      10 ^ (l.exponent.getD 0 - (l.fraction.getD []).length) := by
  have one : |(Number.sign l.negative : ℚ)| = 1 := by
    cases l.negative <;> norm_num [Number.sign]
  have power : (0 : ℚ) < 10 ^ (l.exponent.getD 0 - (l.fraction.getD []).length) := by positivity
  rw [Literal.denoted, abs_mul, abs_mul, one, one_mul, abs_of_pos power, Nat.abs_cast]

/-- A literal stands for a finite number if its value is below the limit. -/
theorem isFinite_ofLiteral_iff : (ofLiteral l).IsFinite ↔ |l.denoted| < Binary64.limit := by
  have large := @Binary64.ofDecimal?_eq_none_iff l.negative
  rw [abs_denoted, ← not_le, ← large, ofLiteral, ofDecimal]
  split
  next x found => simp [IsFinite, found]
  next none => simp [IsFinite, none]

/-- A text spells a literal with its sign. -/
def Spells (l : Literal) (text : List Char) : Prop :=
  ∃ sign digits, SpellsSign l.negative sign ∧ SpellsDecimal l digits ∧ text = sign ++ digits

/-- A text is a word for what is no finite number, with or without a sign. -/
def SpellsSpecial (text : List Char) : Prop :=
  ∃ negative sign word, SpellsSign negative sign ∧ IsSpecial word ∧ text = sign ++ word

/-- A text is read as a finite number if it spells one in range. -/
theorem read_finite_iff :
    (∃ x, read text = .ok x ∧ x.IsFinite) ↔ ∃ l, Spells l text ∧ |l.denoted| < Binary64.limit := by
  simp only [read_eq_ok_iff]
  constructor
  · rintro ⟨_, ⟨signed, word⟩ | ⟨signed, word⟩ | ⟨signed, spelled⟩, finite⟩
    · obtain ⟨_, ⟨⟩⟩ := finite
    · obtain ⟨_, ⟨⟩⟩ := finite
    · exact ⟨_, ⟨_, _, signed, spelled, rfl⟩, isFinite_ofLiteral_iff.mp finite⟩
  · rintro ⟨l, ⟨sign, digits, signed, spelled, rfl⟩, inRange⟩
    exact ⟨_, .decimal signed spelled, isFinite_ofLiteral_iff.mpr inRange⟩

/-- A text is read as something else if it is a word or spells a number that is too large. -/
theorem read_not_finite_iff :
    (∃ x, read text = .ok x ∧ ¬ x.IsFinite) ↔
      SpellsSpecial text ∨ ∃ l, Spells l text ∧ Binary64.limit ≤ |l.denoted| := by
  simp only [read_eq_ok_iff]
  constructor
  · rintro ⟨_, ⟨signed, word⟩ | ⟨signed, word⟩ | ⟨signed, spelled⟩, other⟩
    · exact .inl ⟨_, _, _, signed, .inl word, rfl⟩
    · exact .inl ⟨_, _, _, signed, .inr word, rfl⟩
    · rw [isFinite_ofLiteral_iff, not_lt] at other
      exact .inr ⟨_, ⟨_, _, signed, spelled, rfl⟩, other⟩
  · rintro (⟨negative, sign, word, signed, infinity | nan, rfl⟩ | ⟨l, spells, large⟩)
    · exact ⟨_, .infinite signed infinity, nofun⟩
    · exact ⟨_, .undefined signed nan, nofun⟩
    · obtain ⟨sign, digits, signed, spelled, rfl⟩ := spells
      refine ⟨_, .decimal signed spelled, ?_⟩
      rw [isFinite_ofLiteral_iff, not_lt]
      exact large

end Real64

end SurveyDispatch
