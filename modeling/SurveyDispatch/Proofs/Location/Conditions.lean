import SurveyDispatch.Proofs.Location.Keys

/-!
# Conditions and their literals

The address service reads a condition as bare text and literals.  A literal runs from a quote to the
next quote that is not doubled, and a doubled quote stands for one (`Condition.read`).  Parts are
written by doubling the quotes inside literals, and writing what was read gives the condition back
(`Condition.write_of_readFrom`).

The condition for an address puts the parts of the address into quotes as they are.  Postcodes and
house numbers have no quotes.  A suffix may have some, and then it is not the literal that is read
(`Address.read_whereClause_iff`): the text behind its first quote is read as part of the condition.
-/

namespace SurveyDispatch

namespace Condition

/-- A part of a condition. -/
inductive Part where
  /-- Text outside of literals. -/
  | bare (text : List Char)
  /-- What a literal stands for. -/
  | literal (content : List Char)
  deriving DecidableEq, Repr

/-- Reads a condition from inside or outside of a literal, with the text held since the last quote.
A literal that is not closed cannot be read. -/
def readFrom : Bool → List Char → List Char → Option (List Part)
  | false, held, [] => some [.bare held]
  | true, _, [] => none
  | true, held, '\'' :: '\'' :: rest => readFrom true (held ++ ['\'']) rest
  | inside, held, c :: rest =>
    if c = '\'' then
      if inside then (readFrom false [] rest).map (.literal held :: ·)
      else (readFrom true [] rest).map (.bare held :: ·)
    else readFrom inside (held ++ [c]) rest

/-- The parts of a condition. -/
def read (condition : String) : Option (List Part) := readFrom false [] condition.toList

/-- A character of a literal. -/
def writeChar (c : Char) : List Char := if c = '\'' then ['\'', '\''] else [c]

/-- A part in a condition. -/
def writePart : Part → List Char
  | .bare text => text
  | .literal content => '\'' :: content.flatMap writeChar ++ ['\'']

/-- The condition of parts. -/
def write (parts : List Part) : List Char := parts.flatMap writePart

variable {held text content rest : List Char} {parts : List Part}

/-! ## Reading -/

/-- Only a quote changes where the reader stands. -/
theorem readFrom_of_ne {inside : Bool} {c : Char} (h : c ≠ '\'') :
    readFrom inside held (c :: rest) = readFrom inside (held ++ [c]) rest := by
  rw [readFrom.eq_def]
  simp [h]

/-- Text without quotes is held. -/
theorem readFrom_append {inside : Bool} (h : '\'' ∉ text) :
    readFrom inside held (text ++ rest) = readFrom inside (held ++ text) rest := by
  induction text generalizing held with
  | nil => rw [List.append_nil]; rfl
  | cons c text ih =>
    obtain ⟨ne, h⟩ := List.ne_and_not_mem_of_not_mem_cons h
    rw [List.cons_append, readFrom_of_ne ne.symm, ih h, List.append_assoc]
    rfl

/-- A quote outside of a literal opens one. -/
theorem readFrom_opening :
    readFrom false held ('\'' :: rest) = (readFrom true [] rest).map (.bare held :: ·) := rfl

/-- A quote that is not doubled closes a literal. -/
theorem readFrom_closing (h : rest.head? ≠ some '\'') :
    readFrom true held ('\'' :: rest) = (readFrom false [] rest).map (.literal held :: ·) := by
  cases rest with
  | nil => rfl
  | cons c rest =>
    have ne : c ≠ '\'' := fun eq => h (congrArg some eq)
    rw [readFrom.eq_def]
    simp [ne]

/-- A literal without quotes between bare text and what follows. -/
theorem readFrom_literal (outside : '\'' ∉ text) (inside : '\'' ∉ content)
    (h : rest.head? ≠ some '\'') :
    readFrom false [] (text ++ '\'' :: (content ++ '\'' :: rest)) =
      (readFrom false [] rest).map fun parts => .bare text :: .literal content :: parts := by
  rw [readFrom_append outside, readFrom_opening, readFrom_append inside, readFrom_closing h,
    List.nil_append, List.nil_append, Option.map_map]
  rfl

/-! ## Writing what was read -/

theorem write_cons (part : Part) (parts : List Part) :
    write (part :: parts) = writePart part ++ write parts := rfl

theorem writeChar_of_ne {c : Char} (h : c ≠ '\'') : writeChar c = [c] := if_neg h

/-- What has been held and what is read make up what the parts are written as. -/
theorem write_of_readFrom {inside : Bool} (h : readFrom inside held text = some parts) :
    write parts = (if inside then '\'' :: held.flatMap writeChar else held) ++ text := by
  fun_induction readFrom inside held text generalizing parts with
  | case1 held =>
    cases h
    simp [write, writePart]
  | case2 => cases h
  | case3 held rest ih =>
    rw [ih h]
    simp [writeChar]
  | case4 held rest notDoubled ih =>
    obtain ⟨more, read, rfl⟩ := Option.map_eq_some_iff.mp h
    rw [write_cons, ih read]
    simp [writePart]
  | case5 inside held rest outside notDoubled ih =>
    obtain ⟨more, read, rfl⟩ := Option.map_eq_some_iff.mp h
    rw [write_cons, ih read]
    simp [writePart, outside]
  | case6 inside held c rest notDoubled ne ih =>
    rw [ih h]
    cases inside with
    | false => simp
    | true => simp [writeChar_of_ne ne]

/-- A literal is longer than its content by the number of quotes in it. -/
theorem length_flatMap_writeChar :
    (content.flatMap writeChar).length = content.length + content.count '\'' := by
  induction content with
  | nil => rfl
  | cons c content ih =>
    rw [List.flatMap_cons, List.length_append, ih]
    by_cases h : c = '\''
    · subst h
      simp [writeChar]
      omega
    · rw [writeChar_of_ne h, List.count_cons_of_ne h]
      simp
      omega

/-- Only a text without quotes is written as it is. -/
theorem flatMap_writeChar_eq_iff : content.flatMap writeChar = content ↔ '\'' ∉ content := by
  constructor
  · intro same
    have length := congrArg List.length same
    rw [length_flatMap_writeChar, Nat.add_eq_left] at length
    exact List.count_eq_zero.mp length
  · intro h
    induction content with
    | nil => rfl
    | cons c content ih =>
      obtain ⟨ne, h⟩ := List.ne_and_not_mem_of_not_mem_cons h
      rw [List.flatMap_cons, writeChar_of_ne ne.symm, ih h]
      rfl

end Condition

/-! ## Conditions for addresses -/

open Condition (Part)

namespace LocationSettings

/-- The names of the attributes have no quotes. -/
structure Plain (s : LocationSettings) : Prop where
  /-- That of the postcode. -/
  postcode : '\'' ∉ s.postcodeAttribute.toList
  /-- That of the house number. -/
  houseNumber : '\'' ∉ s.houseNumberAttribute.toList
  /-- That of the suffix. -/
  suffix : '\'' ∉ s.suffixAttribute.toList

/-- The attributes of the default settings have no quotes in their names. -/
theorem plain_default : default.Plain := ⟨by decide, by decide, by decide⟩

end LocationSettings

namespace Address

variable {s : LocationSettings} {a : Address}

/-- The word between two comparisons. -/
def conjunction : List Char := [' ', 'A', 'N', 'D', ' ']

/-- The parts up to the suffix. -/
def frontParts (s : LocationSettings) (a : Address) : List Part :=
  [.bare (s.postcodeAttribute.toList ++ ['=']), .literal a.postcode.toList,
    .bare (conjunction ++ s.houseNumberAttribute.toList ++ ['=']), .literal a.houseNumber.toList]

/-- The bare text in front of a suffix. -/
def beforeSuffix (s : LocationSettings) : List Char :=
  conjunction ++ s.suffixAttribute.toList ++ ['=']

/-- The bare text for an address without a suffix. -/
def withoutSuffix (s : LocationSettings) : List Char :=
  conjunction ++ s.suffixAttribute.toList ++ [' ', 'I', 'S', ' ', 'N', 'U', 'L', 'L']

/-- The parts that the condition for an address should have. -/
def parts (s : LocationSettings) (a : Address) : List Part :=
  a.frontParts s ++
    match a.suffix with
    | some suffix => [.bare (beforeSuffix s), .literal suffix.toList, .bare []]
    | none => [.bare (withoutSuffix s)]

/-- What the condition says about the suffix. -/
def suffixCondition (s : LocationSettings) : Option String → List Char
  | some suffix => beforeSuffix s ++ '\'' :: (suffix.toList ++ ['\''])
  | none => withoutSuffix s

/-- The condition compares the postcode, then the house number, then says something about the
suffix. -/
theorem toList_whereClause :
    (a.whereClause s).toList =
      s.postcodeAttribute.toList ++ ['='] ++ '\'' :: (a.postcode.toList ++ '\'' ::
        (conjunction ++ s.houseNumberAttribute.toList ++ ['='] ++ '\'' ::
          (a.houseNumber.toList ++ '\'' :: suffixCondition s a.suffix))) := by
  obtain ⟨postcode, houseNumber, suffix⟩ := a
  cases suffix <;>
    simp [whereClause, comparison, suffixCondition, beforeSuffix, withoutSuffix, conjunction]

/-! ## Parts without quotes -/

/-- A house number has no quotes. -/
theorem IsHouseNumber.quote_not_mem {text : List Char} (h : IsHouseNumber text) :
    '\'' ∉ text := by
  intro mem
  have digit := h.2 _ mem
  revert digit
  decide

/-- A postcode has no quotes. -/
theorem IsPostcode.quote_not_mem {text : List Char} (h : IsPostcode text) : '\'' ∉ text := by
  obtain ⟨digits, letters, rfl, -, -, isDigit, isLetter⟩ := h
  intro mem
  rcases List.mem_append.mp mem with mem | mem
  · have digit := isDigit _ mem
    revert digit
    decide
  · have letter := (isLetter _ mem).1
    revert letter
    decide

/-! ## Reading the condition for an address -/

/-- Up to the suffix, the condition of an address is read as its parts. -/
theorem readFrom_whereClause (plain : s.Plain) (wellFormed : a.WellFormed) :
    Condition.read (a.whereClause s) =
      (Condition.readFrom false [] (suffixCondition s a.suffix)).map (a.frontParts s ++ ·) := by
  have apart : (suffixCondition s a.suffix).head? ≠ some '\'' := by
    cases a.suffix <;> simp [suffixCondition, beforeSuffix, withoutSuffix, conjunction]
  have postcode : '\'' ∉ s.postcodeAttribute.toList ++ ['='] := by
    simpa using plain.postcode
  have houseNumber : '\'' ∉ conjunction ++ s.houseNumberAttribute.toList ++ ['='] := by
    simpa [conjunction] using plain.houseNumber
  rw [Condition.read, toList_whereClause,
    Condition.readFrom_literal postcode wellFormed.postcode.quote_not_mem (by simp [conjunction]),
    Condition.readFrom_literal houseNumber wellFormed.houseNumber.quote_not_mem apart,
    Option.map_map]
  rfl

/-- The text behind the quote in front of a suffix is read on as a literal and what follows. -/
theorem readFrom_suffixCondition (plain : s.Plain) (suffix : String) :
    Condition.readFrom false [] (suffixCondition s (some suffix)) =
      (Condition.readFrom true [] (suffix.toList ++ ['\''])).map (.bare (beforeSuffix s) :: ·) := by
  have outside : '\'' ∉ beforeSuffix s := by
    simpa [beforeSuffix, conjunction] using plain.suffix
  rw [suffixCondition, Condition.readFrom_append outside, Condition.readFrom_opening]
  rfl

/-- A suffix is read as a literal only if it has no quotes. -/
theorem readFrom_suffix_iff {suffix : List Char} :
    Condition.readFrom true [] (suffix ++ ['\'']) = some [.literal suffix, .bare []] ↔
      '\'' ∉ suffix := by
  constructor
  · intro read
    have written := Condition.write_of_readFrom read
    rw [← Condition.flatMap_writeChar_eq_iff]
    simpa [Condition.write, Condition.writePart] using written
  · intro inside
    rw [Condition.readFrom_append inside, Condition.readFrom_closing (by simp)]
    rfl

/-- The parts of the condition are those it should have exactly if the suffix has no quotes. -/
theorem read_whereClause_iff (plain : s.Plain) (wellFormed : a.WellFormed) :
    Condition.read (a.whereClause s) = some (a.parts s) ↔
      ∀ suffix, a.suffix = some suffix → '\'' ∉ suffix.toList := by
  rw [readFrom_whereClause plain wellFormed, parts]
  cases a.suffix with
  | none =>
    have outside : '\'' ∉ withoutSuffix s := by
      simpa [withoutSuffix, conjunction] using plain.suffix
    have read : Condition.readFrom false [] (withoutSuffix s) = some [.bare (withoutSuffix s)] := by
      have held := @Condition.readFrom_append [] (withoutSuffix s) [] false outside
      rwa [List.append_nil, List.nil_append] at held
    simp [suffixCondition, read]
  | some suffix =>
    rw [readFrom_suffixCondition plain, Option.map_map, Option.map_eq_some_iff]
    simp only [Function.comp_apply, List.append_cancel_left_eq, List.cons.injEq, true_and,
      exists_eq_right, readFrom_suffix_iff, Option.some.injEq, forall_eq']

/-- How the condition for the address of a key is read, with the built-in settings. -/
theorem whereClause_literals {parser : AddressParser} {key : String} {a : Address}
    (built : AddressParser.ofSettings .default = .ok parser)
    (accepted : parser.parseKey key = .ok a) :
    (Condition.read (a.whereClause .default) = some (a.parts .default) ↔
        ∀ suffix, a.suffix = some suffix → '\'' ∉ suffix.toList) ∧
      ∀ suffix, a.suffix = some suffix →
        Condition.read (a.whereClause .default) =
          (Condition.readFrom true [] (suffix.toList ++ ['\''])).map
            (a.frontParts .default ++ .bare (beforeSuffix .default) :: ·) := by
  cases built.symm.trans AddressParser.ofSettings_default
  have plain := LocationSettings.plain_default
  have wellFormed := (AddressParser.of_parseKey accepted).1
  refine ⟨read_whereClause_iff plain wellFormed, ?_⟩
  intro suffix found
  rw [readFrom_whereClause plain wellFormed, found, readFrom_suffixCondition plain, Option.map_map]
  rfl

/-- A key whose suffix closes its literal. -/
def quotedKey : String := "1234AB12_A' OR 'x'='x"

/-- The address of this key. -/
def quotedAddress : Address := ⟨"1234AB", "12", some "A' OR 'x'='x"⟩

/-- A suffix with quotes adds an alternative that always holds to the condition. -/
theorem whereClause_literals_quoted :
    ∃ parser, AddressParser.ofSettings .default = .ok parser ∧
      parser.parseKey quotedKey = .ok quotedAddress ∧
      Condition.read (quotedAddress.whereClause .default) ≠ some (quotedAddress.parts .default) ∧
      Condition.read (quotedAddress.whereClause .default) =
        some (quotedAddress.frontParts .default ++ [.bare (beforeSuffix .default), .literal ['A'],
          .bare [' ', 'O', 'R', ' '], .literal ['x'], .bare ['='], .literal ['x'], .bare []]) := by
  have built := AddressParser.ofSettings_default
  have accepted : AddressParser.builtIn.parseKey quotedKey = .ok quotedAddress := rfl
  obtain ⟨literals, suffix⟩ := whereClause_literals built accepted
  refine ⟨_, built, accepted, ?_, ?_⟩
  · intro same
    exact literals.mp same _ rfl (by decide)
  · rw [suffix _ rfl]
    rfl

end Address

end SurveyDispatch
