import SurveyDispatch.Proofs.Location.Keys
import SurveyDispatch.Proofs.Pattern.Finding
import SurveyDispatch.Proofs.Store.Growth

/-!
# Points of keys

The parts of an address cannot be told apart in more than one way: a postcode has six characters, a
house number ends where the digits end, and a suffix stands behind an underscore.  So well-formed
addresses with one key are equal (`Address.WellFormed.eq_of_key_eq`).

The pattern of keys matches the key of every well-formed address, and a search finds what there is.
So keys are parsed to exactly the addresses that have them, and a table of points that is asked for
the address of a key answers by this key (`AddressParser.parseKey_points`).
-/

namespace SurveyDispatch

namespace Address

variable {a b : Address}

/-! ## Addresses with one key -/

/-- Every postcode has six characters, so that the house number starts behind them. -/
theorem IsPostcode.length_eq {text : List Char} (h : IsPostcode text) : text.length = 6 := by
  obtain ⟨digits, letters, rfl, four, two, -, -⟩ := h
  rw [List.length_append, four, two]

/-- A house number is all the digits in front of a suffix. -/
theorem IsHouseNumber.takeWhile_eq {number : List Char} (h : IsHouseNumber number)
    (suffix : Option (List Char)) :
    (number ++ suffixText suffix).takeWhile Text.isDecimalDigit = number := by
  rw [List.takeWhile_append_of_pos h.2]
  have stops : (suffixText suffix).takeWhile Text.isDecimalDigit = [] := by
    cases suffix with
    | none => rfl
    | some suffix => exact List.takeWhile_cons_of_neg (by decide)
  rw [stops, List.append_nil]

/-- A text for a suffix stands for one suffix only. -/
theorem suffixText_inj {suffix suffix' : Option (List Char)}
    (h : suffixText suffix = suffixText suffix') : suffix = suffix' := by
  cases suffix <;> cases suffix' <;> cases h <;> rfl

theorem toList_key (a : Address) :
    a.key.toList =
      a.postcode.toList ++ (a.houseNumber.toList ++ suffixText (a.suffix.map String.toList)) := by
  rw [← List.append_assoc, ← key_ofParts, ofParts_toList]

/-- Well-formed addresses with the same key are the same. -/
theorem WellFormed.eq_of_key_eq (ha : a.WellFormed) (hb : b.WellFormed) (same : a.key = b.key) :
    a = b := by
  have texts := congrArg String.toList same
  rw [toList_key, toList_key] at texts
  have lengths : a.postcode.toList.length = b.postcode.toList.length := by
    rw [ha.postcode.length_eq, hb.postcode.length_eq]
  obtain ⟨postcode, behind⟩ := List.append_inj texts lengths
  have number : a.houseNumber.toList = b.houseNumber.toList := by
    rw [← ha.houseNumber.takeWhile_eq (a.suffix.map String.toList), behind,
      hb.houseNumber.takeWhile_eq]
  rw [number] at behind
  have suffix := suffixText_inj (List.append_cancel_left behind)
  rw [← ofParts_toList a, postcode, number, suffix, ofParts_toList]

end Address

namespace AddressParser

variable {key : String} {a : Address}

/-! ## Keys and addresses -/

/-- The settings decide how a key is split by their pattern alone. -/
theorem ofSettings_of_pattern {s : LocationSettings}
    (standard : s.addressPattern = LocationSettings.default.addressPattern) :
    ofSettings s = .ok ⟨Address.keyPattern.program, s.keyField, s.fallbackKeyField⟩ := by
  rw [ofSettings, standard, Address.read?_addressPattern]
  rfl

/-- The key of a well-formed address is parsed to this address. -/
theorem parseKey_key (wellFormed : a.WellFormed) : builtIn.parseKey a.key = .ok a := by
  have suffix : ∀ text ∈ a.suffix.map String.toList, Address.IsSuffix text := by
    intro text found
    obtain ⟨s, there, rfl⟩ := Option.map_eq_some_iff.mp found
    exact wellFormed.suffix s there
  obtain ⟨t, matched⟩ := Address.exists_matches_keyPattern wellFormed.postcode
    wellFormed.houseNumber suffix
  rw [List.append_assoc, ← Address.toList_key] at matched
  obtain ⟨m, captured⟩ := Pattern.exists_captures?_iff.mpr ⟨[], _, t, rfl, matched⟩
  obtain ⟨b, address, wellFormed', key⟩ := exists_of_captures? captured
  rw [parseKey, show builtIn.program.captures? a.key.toList = some m from captured,
    Option.bind_some, address, wellFormed'.eq_of_key_eq wellFormed key]

/-- A key is split into an address exactly if the address is well formed and has that key. -/
theorem parseKey_eq_ok_iff :
    builtIn.parseKey key = .ok a ↔ a.WellFormed ∧ a.key = key := by
  constructor
  · exact of_parseKey
  · rintro ⟨wellFormed, rfl⟩
    exact parseKey_key wellFormed

/-- A key that no address has is refused. -/
theorem parseKey_eq_error (h : ∀ a, builtIn.parseKey key ≠ .ok a) :
    builtIn.parseKey key = .error (.unmatched key) := by
  unfold parseKey at h ⊢
  split at h
  next a found => exact absurd rfl (h a)
  next => rfl

/-- With the built-in pattern, keys are parsed to the addresses that have them, and tables of points
answer for an address by its key. -/
theorem parseKey_points {s : LocationSettings}
    (standard : s.addressPattern = LocationSettings.default.addressPattern) :
    ∃ parser, ofSettings s = .ok parser ∧ ∀ key,
      (∀ a, parser.parseKey key = .ok a ↔ a.WellFormed ∧ a.key = key) ∧
      ((∀ a : Address, a.WellFormed → a.key ≠ key) →
        parser.parseKey key = .error (.unmatched key)) ∧
      ∀ a (table : CoordinateTable), parser.parseKey key = .ok a →
        (∀ point, (key, point) ∈ table.points.entries → table.lookup a = some point) ∧
        ((∀ point, (key, point) ∉ table.points.entries) → table.lookup a = table.fallback) := by
  refine ⟨_, ofSettings_of_pattern standard, ?_⟩
  intro key
  -- Parsing a key looks at the pattern and at no other setting.
  have same : (AddressParser.mk Address.keyPattern.program s.keyField s.fallbackKeyField).parseKey
      key = builtIn.parseKey key := rfl
  simp only [same]
  refine ⟨fun a => parseKey_eq_ok_iff, ?_, ?_⟩
  · intro unnamed
    refine parseKey_eq_error fun a parsed => ?_
    obtain ⟨wellFormed, named⟩ := parseKey_eq_ok_iff.mp parsed
    exact unnamed a wellFormed named
  · intro a table parsed
    obtain ⟨-, rfl⟩ := parseKey_eq_ok_iff.mp parsed
    refine ⟨fun point stored => ?_, fun missing => ?_⟩
    · rw [CoordinateTable.lookup, Dictionary.mem_entries_iff.mp stored, Option.some_or]
    · have none : table.points.get? a.key = none :=
        Option.eq_none_iff_forall_ne_some.mpr fun point found =>
          missing point (Dictionary.mem_entries_iff.mpr found)
      rw [CoordinateTable.lookup, none, Option.none_or]

/-- Settings that take their keys from elsewhere. -/
def plainSettings : LocationSettings :=
  { keyField := "key", fallbackKeyField := "", outFields := [] }

/-- An address with digits of two scripts and a suffix that looks like two. -/
def mixedAddress : Address := ⟨"12१२AB", "3٣", some "A_1"⟩

/-- Another address in the same house. -/
def plainAddress : Address := ⟨"12१२AB", "3٣", none⟩

theorem wellFormed_mixedAddress : mixedAddress.WellFormed where
  postcode := ⟨['1', '2', '१', '२'], ['A', 'B'], rfl, rfl, rfl, List.all_eq_true.mp (by decide),
    List.forall_mem_cons.mpr ⟨by decide, List.forall_mem_singleton.mpr (by decide)⟩⟩
  houseNumber := ⟨by decide, List.all_eq_true.mp (by decide)⟩
  suffix := by
    rintro _ ⟨⟩
    exact ⟨by decide, by decide⟩

theorem wellFormed_plainAddress : plainAddress.WellFormed where
  postcode := wellFormed_mixedAddress.postcode
  houseNumber := wellFormed_mixedAddress.houseNumber
  suffix := nofun

/-- Where the equator meets the prime meridian. -/
def origin : Coordinates := ⟨.finite (.zero false), .finite (.zero false)⟩

/-- The points of a table that has one key and otherwise no point at all. -/
def originTable : CoordinateTable :=
  ⟨.ofList [("12१२AB3٣_A_1", origin)], some ⟨.undefined, .undefined⟩⟩

/-- The point of an address is found under its key, and the other address has the fallback. -/
theorem parseKey_points_mixed :
    ∃ parser, ofSettings plainSettings = .ok parser ∧
      parser.parseKey "12१२AB3٣_A_1" = .ok mixedAddress ∧
      parser.parseKey "12१२AB3٣" = .ok plainAddress ∧
      originTable.lookup mixedAddress = some origin ∧
      originTable.lookup plainAddress = some ⟨.undefined, .undefined⟩ := by
  obtain ⟨parser, built, keys⟩ := parseKey_points (s := plainSettings) rfl
  obtain ⟨parsed, -, points⟩ := keys "12१२AB3٣_A_1"
  obtain ⟨parsed', -, points'⟩ := keys "12१२AB3٣"
  have mixed := (parsed mixedAddress).mpr ⟨wellFormed_mixedAddress, by decide⟩
  have plain := (parsed' plainAddress).mpr ⟨wellFormed_plainAddress, by decide⟩
  refine ⟨parser, built, mixed, plain, (points _ originTable mixed).1 origin ?_,
    (points' _ originTable plain).2 ?_⟩
  · exact List.mem_singleton_self _
  · intro p mem
    have other : "12१२AB3٣" ≠ "12१२AB3٣_A_1" := by decide
    exact other (congrArg Prod.fst (List.mem_singleton.mp mem))

end AddressParser

end SurveyDispatch
