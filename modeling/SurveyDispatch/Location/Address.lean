import SurveyDispatch.Location.Settings
import SurveyDispatch.Pattern.Reader
import SurveyDispatch.Pattern.Search
import SurveyDispatch.Document.Path
import SurveyDispatch.Text.FormEncoding

/-!
# Addresses

A submission holds an address key such as `1234AB12_A`.  A pattern splits it into a postcode, a
house number and an optional suffix.  The address service is asked for an address by a query that
is form encoded.
-/

namespace SurveyDispatch

/-- A postal address. -/
structure Address where
  /-- The postcode. -/
  postcode : String
  /-- The house number. -/
  houseNumber : String
  /-- What follows the house number. -/
  suffix : Option String
  deriving DecidableEq, Repr

/-- Why there is no address. -/
inductive AddressFault where
  /-- Neither path leads to a key. -/
  | missingKey (key fallback : String)
  /-- The key does not match the pattern. -/
  | unmatched (key : String)
  /-- The pattern is malformed. -/
  | malformedPattern
  /-- The pattern has too few groups. -/
  | tooFewGroups
  deriving DecidableEq, Repr

/-- The wording of a fault. -/
def AddressFault.message : AddressFault → String
  | missingKey key fallback => s!"no address key at '{key}' or '{fallback}'"
  | unmatched key => s!"address key '{key}' does not match the address pattern"
  | malformedPattern => "invalid address pattern"
  | tooFewGroups =>
    "invalid address pattern: needs capture groups for postcode and house number"

namespace Address

/-- The key that an address is split from. -/
def key (a : Address) : String :=
  match a.suffix with
  | some suffix => a.postcode ++ a.houseNumber ++ "_" ++ suffix
  | none => a.postcode ++ a.houseNumber

/-- A comparison of an attribute with a literal. -/
def comparison (name value : String) : String := name ++ "='" ++ value ++ "'"

/-- The condition by which the address service selects the address. -/
def whereClause (s : LocationSettings) (a : Address) : String :=
  comparison s.postcodeAttribute a.postcode ++ " AND " ++
    comparison s.houseNumberAttribute a.houseNumber ++ " AND " ++
    match a.suffix with
    | some suffix => comparison s.suffixAttribute suffix
    | none => s.suffixAttribute ++ " IS NULL"

/-- The names and values of the query for an address. -/
def queryPairs (s : LocationSettings) (token : String) (a : Address) : List (String × String) :=
  [("where", a.whereClause s), ("outFields", ",".intercalate s.outFields), ("f", "json"),
    ("token", token)]

/-- A name and a value of a query, form encoded. -/
def queryPair (pair : String × String) : List Char :=
  FormEncoding.encode FormEncoding.keptInQuery pair.1 ++ '=' ::
    FormEncoding.encode FormEncoding.keptInQuery pair.2

/-- The query for an address. -/
def featureQuery (s : LocationSettings) (token : String) (a : Address) : String :=
  .ofList (['&'].intercalate ((a.queryPairs s token).map queryPair))

end Address

/-- Splits address keys. -/
structure AddressParser where
  /-- The program of the pattern of keys. -/
  program : Pattern.Program
  /-- The path of the key. -/
  keyField : String
  /-- The path of the key where the first one is absent or falsy. -/
  fallbackKeyField : String

namespace AddressParser

/-- The parser of settings.  Its pattern needs groups for the postcode and the house number. -/
def ofSettings (s : LocationSettings) : Except AddressFault AddressParser :=
  match Pattern.read? s.addressPattern with
  | none => .error .malformedPattern
  | some pattern =>
    if pattern.groupCount < 2 then .error .tooFewGroups
    else .ok ⟨pattern.program, s.keyField, s.fallbackKeyField⟩

/-- The address of captured groups.  An empty suffix counts as none. -/
def ofCaptures? (captures : Pattern.Captures) : Option Address := do
  let postcode ← captures.get? 1
  let houseNumber ← captures.get? 2
  let suffix := (captures.get? 3).filter fun s => !s.isEmpty
  return ⟨.ofList postcode, .ofList houseNumber, suffix.map .ofList⟩

/-- The address of a key. -/
def parseKey (p : AddressParser) (key : String) : Except AddressFault Address :=
  match (p.program.captures? key.toList).bind ofCaptures? with
  | some address => .ok address
  | none => .error (.unmatched key)

/-- The key of a record.  A falsy value at the first path counts as absent. -/
def keyOf? (p : AddressParser) (record : Document) : Option String :=
  (((record.resolve p.keyField).filter fun d => !d.isFalsy).or
    (record.resolve p.fallbackKeyField)).bind Document.asText?

/-- The address of a record. -/
def parse (p : AddressParser) (record : Document) : Except AddressFault Address :=
  match p.keyOf? record with
  | some key => p.parseKey key
  | none => .error (.missingKey p.keyField p.fallbackKeyField)

end AddressParser

end SurveyDispatch
