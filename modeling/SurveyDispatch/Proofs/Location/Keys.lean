import SurveyDispatch.Location.Lookup
import SurveyDispatch.Proofs.Pattern.Threads

/-!
# Keys and addresses

With the built-in settings a key is a postcode, a house number and possibly a suffix behind an
underscore.  The parts of an address have this form (`Address.WellFormed`), and put together they
are the key again (`AddressParser.of_parseKey`).
-/

namespace SurveyDispatch

open Pattern (Matches State Slots)

namespace Address

/-! ## The parts of an address -/

/-- Four decimal digits of any script and two letters. -/
def IsPostcode (text : List Char) : Prop :=
  ∃ digits letters, text = digits ++ letters ∧ digits.length = 4 ∧ letters.length = 2 ∧
    (∀ c ∈ digits, Text.isDecimalDigit c = true) ∧ ∀ c ∈ letters, 'A' ≤ c ∧ c ≤ 'Z'

/-- One or more decimal digits of any script. -/
def IsHouseNumber (text : List Char) : Prop :=
  text ≠ [] ∧ ∀ c ∈ text, Text.isDecimalDigit c = true

/-- Any characters but line feeds, at least one. -/
def IsSuffix (text : List Char) : Prop := text ≠ [] ∧ '\n' ∉ text

/-- An address that a key may have. -/
structure WellFormed (a : Address) : Prop where
  /-- The postcode. -/
  postcode : IsPostcode a.postcode.toList
  /-- The house number. -/
  houseNumber : IsHouseNumber a.houseNumber.toList
  /-- The suffix. -/
  suffix : ∀ s, a.suffix = some s → IsSuffix s.toList

/-! ## The pattern of keys -/

/-- The pattern of a postcode. -/
def postcodePattern : Pattern :=
  .seq (.repeated ⟨4, some 4, true⟩ (.char .digit))
    (.repeated ⟨2, some 2, true⟩ (.char (.range 'A' 'Z')))

/-- The pattern of a house number. -/
def houseNumberPattern : Pattern := .repeated ⟨1, none, true⟩ (.char .digit)

/-- The pattern of a suffix. -/
def suffixPattern : Pattern := .repeated ⟨1, none, true⟩ (.char .any)

/-- The pattern of keys. -/
def keyPattern : Pattern :=
  .seq .start (.seq (.group 1 postcodePattern) (.seq (.group 2 houseNumberPattern)
    (.seq (.repeated ⟨0, some 1, true⟩ (.seq (.char (.single '_')) (.group 3 suffixPattern)))
      .finish)))

/-- The default pattern is read as the pattern of keys. -/
theorem read?_addressPattern :
    Pattern.read? LocationSettings.default.addressPattern = some keyPattern := by
  decide +kernel

variable {s t : State} {position : Nat} {text : List Char}

/-- The first group matches the postcodes. -/
theorem matches_postcodePattern_iff :
    Matches postcodePattern s t ↔
      ∃ postcode rest, IsPostcode postcode ∧ s.rest = postcode ++ rest ∧
        t = s.skip postcode rest := by
  constructor
  · rintro ⟨u, first, second⟩
    obtain ⟨digits, rest, least, most, isDigit, ahead, rfl⟩ :=
      Pattern.matches_repeated_char_iff.mp first
    obtain ⟨letters, rest', least', most', isLetter, ahead', rfl⟩ :=
      Pattern.matches_repeated_char_iff.mp second
    refine ⟨digits ++ letters, rest', ⟨digits, letters, rfl, ?_, ?_, isDigit, ?_⟩, ?_,
      Pattern.skip_skip⟩
    · exact Nat.le_antisymm (most 4 rfl) least
    · exact Nat.le_antisymm (most' 2 rfl) least'
    · exact fun c mem => CharSet.contains_range.mp (isLetter c mem)
    · rw [ahead, List.append_assoc, ← show rest = letters ++ rest' from ahead']
  · rintro ⟨_, rest, ⟨digits, letters, rfl, four, two, isDigit, isLetter⟩, ahead, rfl⟩
    rw [List.append_assoc] at ahead
    refine ⟨s.skip digits (letters ++ rest), Pattern.matches_repeated_char_iff.mpr
      ⟨digits, _, Nat.le_of_eq four.symm, ?_, isDigit, ahead, rfl⟩,
      Pattern.matches_repeated_char_iff.mpr
        ⟨letters, rest, Nat.le_of_eq two.symm, ?_, ?_, rfl, Pattern.skip_skip.symm⟩⟩
    · rintro _ ⟨⟩
      exact Nat.le_of_eq four
    · rintro _ ⟨⟩
      exact Nat.le_of_eq two
    · exact fun c mem => CharSet.contains_range.mpr (isLetter c mem)

/-- The second group matches the house numbers. -/
theorem matches_houseNumberPattern_iff :
    Matches houseNumberPattern s t ↔
      ∃ number rest, IsHouseNumber number ∧ s.rest = number ++ rest ∧ t = s.skip number rest := by
  constructor
  · intro h
    obtain ⟨number, rest, least, -, isDigit, ahead, same⟩ := Pattern.matches_repeated_char_iff.mp h
    exact ⟨number, rest, ⟨List.ne_nil_of_length_pos least, isDigit⟩, ahead, same⟩
  · rintro ⟨number, rest, ⟨nonempty, isDigit⟩, ahead, same⟩
    exact Pattern.matches_repeated_char_iff.mpr
      ⟨number, rest, List.length_pos_iff.mpr nonempty, nofun, isDigit, ahead, same⟩

/-- The third group matches the suffixes. -/
theorem matches_suffixPattern_iff :
    Matches suffixPattern s t ↔
      ∃ suffix rest, IsSuffix suffix ∧ s.rest = suffix ++ rest ∧ t = s.skip suffix rest := by
  constructor
  · intro h
    obtain ⟨suffix, rest, least, -, isAny, ahead, same⟩ := Pattern.matches_repeated_char_iff.mp h
    refine ⟨suffix, rest, ⟨List.ne_nil_of_length_pos least, ?_⟩, ahead, same⟩
    exact fun mem => CharSet.contains_any.mp (isAny _ mem) rfl
  · rintro ⟨suffix, rest, ⟨nonempty, noFeed⟩, ahead, same⟩
    refine Pattern.matches_repeated_char_iff.mpr
      ⟨suffix, rest, List.length_pos_iff.mpr nonempty, nofun, ?_, ahead, same⟩
    intro c mem
    refine CharSet.contains_any.mpr ?_
    rintro rfl
    exact noFeed mem

/-- A suffix behind its underscore. -/
def suffixText : Option (List Char) → List Char
  | some suffix => '_' :: suffix
  | none => []

/-- Where the groups of a key start and end, the latest first. -/
def groupSlots (postcode number : List Char) (suffix : Option (List Char)) : Slots :=
  let behind := postcode.length + number.length
  (match suffix with
    | some suffix => [(7, behind + 1 + suffix.length), (6, behind + 1)]
    | none => []) ++ [(5, behind), (4, postcode.length), (3, postcode.length), (2, 0)]

/-- What the pattern of keys matches from the start of a text. -/
theorem matches_keyPattern (h : Matches keyPattern ⟨position, text, []⟩ t) :
    position = 0 ∧ ∃ postcode number suffix, IsPostcode postcode ∧ IsHouseNumber number ∧
      (∀ s, suffix = some s → IsSuffix s) ∧ text = postcode ++ number ++ suffixText suffix ∧
      t.slots = groupSlots postcode number suffix := by
  obtain ⟨_, ⟨rfl, rfl⟩, _, ⟨_, first, rfl⟩, _, ⟨_, second, rfl⟩, u, third, ⟨atEnd, rfl⟩⟩ := h
  obtain ⟨postcode, rest, isPostcode, ahead, rfl⟩ := matches_postcodePattern_iff.mp first
  obtain ⟨number, rest', isNumber, ahead', rfl⟩ := matches_houseNumberPattern_iff.mp second
  have split : text = postcode ++ (number ++ rest') := by
    rw [show text = postcode ++ rest from ahead, show rest = number ++ rest' from ahead']
  rcases Pattern.matches_optional_iff.mp third with rfl | ⟨_, reads, _, third, rfl⟩
  · have done : rest' = [] := atEnd
    refine ⟨rfl, postcode, number, none, isPostcode, isNumber, nofun, ?_, ?_⟩
    · rw [split, done, suffixText, List.append_nil, List.append_nil]
    · simp [groupSlots, State.save, State.skip, Pattern.startSlot, Pattern.finishSlot]
  · obtain ⟨c, rest'', member, ahead'', rfl⟩ := reads
    obtain ⟨suffix, last, isSuffix, behind, rfl⟩ := matches_suffixPattern_iff.mp third
    have done : last = [] := atEnd
    have tail : rest' = '_' :: suffix := by
      rw [show rest' = c :: rest'' from ahead'', CharSet.contains_single.mp member,
        show rest'' = suffix ++ last from behind, done, List.append_nil]
    refine ⟨rfl, postcode, number, some suffix, isPostcode, isNumber, ?_, ?_, ?_⟩
    · rintro _ ⟨⟩
      exact isSuffix
    · rw [split, tail, suffixText, List.append_assoc]
    · simp [groupSlots, State.save, State.skip, Pattern.startSlot, Pattern.finishSlot]

/-- The parts of a key put together are matched from the start. -/
theorem exists_matches_keyPattern {postcode number : List Char} {suffix : Option (List Char)}
    (isPostcode : IsPostcode postcode) (isNumber : IsHouseNumber number)
    (isSuffix : ∀ s, suffix = some s → IsSuffix s) :
    ∃ t, Matches keyPattern ⟨0, postcode ++ number ++ suffixText suffix, []⟩ t := by
  rw [List.append_assoc]
  have first {s : State} (ahead : s.rest = postcode ++ (number ++ suffixText suffix)) :=
    matches_postcodePattern_iff.mpr ⟨postcode, _, isPostcode, ahead, rfl⟩
  have second {s : State} (ahead : s.rest = number ++ suffixText suffix) :=
    matches_houseNumberPattern_iff.mpr ⟨number, _, isNumber, ahead, rfl⟩
  cases suffix with
  | none =>
    exact ⟨_, _, ⟨rfl, rfl⟩, _, ⟨_, first rfl, rfl⟩, _, ⟨_, second rfl, rfl⟩, _,
      Pattern.matches_optional_iff.mpr (.inl rfl), rfl, rfl⟩
  | some suffix =>
    have third {s : State} (ahead : s.rest = suffix) :=
      matches_suffixPattern_iff.mpr
        ⟨suffix, [], isSuffix suffix rfl, ahead.trans (List.append_nil suffix).symm, rfl⟩
    have underscore := CharSet.contains_single.mpr (Eq.refl '_')
    exact ⟨_, _, ⟨rfl, rfl⟩, _, ⟨_, first rfl, rfl⟩, _, ⟨_, second rfl, rfl⟩, _,
      Pattern.matches_optional_iff.mpr
        (.inr ⟨_, ⟨'_', suffix, underscore, rfl, rfl⟩, _, third rfl, rfl⟩), rfl, rfl⟩

/-! ## What the groups capture -/

/-- The address of the parts of a key. -/
def ofParts (postcode number : List Char) (suffix : Option (List Char)) : Address :=
  ⟨.ofList postcode, .ofList number, suffix.map .ofList⟩

variable {postcode number : List Char} {suffix : Option (List Char)} {m : Pattern.Captures}

/-- A group captures the text between its two positions. -/
theorem get?_eq_some {index : Nat} {front part back : List Char}
    (text : m.text = front ++ part ++ back)
    (first : m.slots.lookup (Pattern.startSlot index) = some front.length)
    (last : m.slots.lookup (Pattern.finishSlot index) = some (front.length + part.length)) :
    m.get? index = some part := by
  rw [Pattern.Captures.get?, first, last, text]
  simp

/-- An address is made of what its groups have captured. -/
theorem ofCaptures?_groupSlots (nonempty : suffix ≠ some [])
    (text : m.text = postcode ++ number ++ suffixText suffix)
    (slots : m.slots = groupSlots postcode number suffix) :
    AddressParser.ofCaptures? m = some (ofParts postcode number suffix) := by
  have first : m.get? 1 = some postcode := by
    refine @get?_eq_some m 1 [] postcode (number ++ suffixText suffix) (by simp [text]) ?_ ?_
    · rw [slots]
      cases suffix <;> rfl
    · rw [slots, List.length_nil, Nat.zero_add]
      cases suffix <;> rfl
  have second : m.get? 2 = some number := by
    refine get?_eq_some text ?_ ?_
    · rw [slots]
      cases suffix <;> rfl
    · rw [slots]
      cases suffix <;> rfl
  rw [AddressParser.ofCaptures?, first, second]
  cases suffix with
  | none =>
    have third : m.get? 3 = none := by
      rw [Pattern.Captures.get?, slots]
      rfl
    rw [third]
    rfl
  | some suffix =>
    have third : m.get? 3 = some suffix := by
      have behind : m.text = postcode ++ number ++ ['_'] ++ suffix ++ [] := by
        simp [text, suffixText]
      refine get?_eq_some behind ?_ ?_
      · rw [slots]
        simp [groupSlots, Pattern.startSlot, List.lookup_cons, Nat.add_assoc]
      · rw [slots]
        simp [groupSlots, Pattern.finishSlot, Nat.add_assoc]
    have kept : suffix.isEmpty = false := by simpa using nonempty
    rw [third, Option.filter_some, kept]
    rfl

/-- The parts of an address are those of its key. -/
theorem wellFormed_ofParts (isPostcode : IsPostcode postcode) (isNumber : IsHouseNumber number)
    (isSuffix : ∀ s, suffix = some s → IsSuffix s) :
    (ofParts postcode number suffix).WellFormed := by
  refine ⟨?_, ?_, ?_⟩
  · rwa [ofParts, String.toList_ofList]
  · rwa [ofParts, String.toList_ofList]
  · intro s found
    obtain ⟨s, rfl, rfl⟩ := Option.map_eq_some_iff.mp found
    rw [String.toList_ofList]
    exact isSuffix s rfl

/-- The key of an address is made of its parts, one behind the other. -/
theorem key_ofParts :
    (ofParts postcode number suffix).key.toList = postcode ++ number ++ suffixText suffix := by
  cases suffix <;> simp [ofParts, key, suffixText]

/-- An address is that of its own parts. -/
theorem ofParts_toList (a : Address) :
    ofParts a.postcode.toList a.houseNumber.toList (a.suffix.map String.toList) = a := by
  cases h : a.suffix <;> simp [ofParts, ← h]

end Address

namespace AddressParser

/-- The parser of the built-in settings. -/
def builtIn : AddressParser :=
  ⟨Address.keyPattern.program, LocationSettings.default.keyField,
    LocationSettings.default.fallbackKeyField⟩

/-- The default settings give the built-in parser. -/
theorem ofSettings_default : ofSettings .default = .ok builtIn := by
  rw [ofSettings, Address.read?_addressPattern]
  rfl

/-- What the pattern of keys captures are the parts of an address with that key. -/
theorem exists_of_captures? {key : String} {m : Pattern.Captures}
    (captured : Address.keyPattern.program.captures? key.toList = some m) :
    ∃ a, ofCaptures? m = some a ∧ a.WellFormed ∧ a.key = key := by
  obtain ⟨text, front, back, t, split, matched, slots⟩ := Pattern.matches_of_captures? captured
  obtain ⟨atStart, postcode, number, suffix, isPostcode, isNumber, isSuffix, ahead, written⟩ :=
    Address.matches_keyPattern matched
  cases List.length_eq_zero_iff.mp atStart
  have whole : key.toList = postcode ++ number ++ Address.suffixText suffix := split.trans ahead
  have nonempty : suffix ≠ some [] := by
    rintro rfl
    exact (isSuffix [] rfl).1 rfl
  refine ⟨_, Address.ofCaptures?_groupSlots nonempty (text.trans whole) (slots.symm.trans written),
    Address.wellFormed_ofParts isPostcode isNumber isSuffix, ?_⟩
  rw [← String.toList_inj, whole, Address.key_ofParts]

/-- The parts of an address are those of its key. -/
theorem of_parseKey {key : String} {a : Address} (h : builtIn.parseKey key = .ok a) :
    a.WellFormed ∧ a.key = key := by
  unfold parseKey at h
  split at h
  next found =>
    cases h
    obtain ⟨m, captured, address⟩ := Option.bind_eq_some_iff.mp found
    obtain ⟨b, address', wellFormed, key⟩ := exists_of_captures? captured
    cases address.symm.trans address'
    exact ⟨wellFormed, key⟩
  next => cases h

end AddressParser

end SurveyDispatch
