import SurveyDispatch.Document.Fields

/-!
# Settings of locations

The settings say where a submission keeps the key of its address, how the key is split, and how
the address service names things.
-/

namespace SurveyDispatch

/-- The settings of locations. -/
structure LocationSettings where
  /-- The path of the address key. -/
  keyField : String := "Entry/AnswersJson/SCHOUW_GEGEVENS_PAGE/DSS"
  /-- The path of the key where the first one is absent or falsy. -/
  fallbackKeyField : String := "Entry/AnswersJson/SCHOUW_GEGEVENS_PAGE/FCA_SLEUTEL"
  /-- The pattern of keys.  Its groups are the postcode, the house number and the suffix. -/
  addressPattern : String := "^(\\d\x7b4\x7d[A-Z]\x7b2\x7d)(\\d+)(?:_(.+))?$"
  /-- The attributes to ask the service for: the latitude, then the longitude. -/
  outFields : List String := ["lat_wgs84", "lon_wgs84"]
  /-- The attribute of the postcode. -/
  postcodeAttribute : String := "postcode"
  /-- The attribute of the house number. -/
  houseNumberAttribute : String := "huisnummer"
  /-- The attribute of the suffix. -/
  suffixAttribute : String := "huisext"
  deriving DecidableEq, Repr

namespace LocationSettings

/-- The built-in settings. -/
def default : LocationSettings := {}

open Document

/-- Reads settings.  Every field has its default. -/
def ofDocument? (c : Conventions) (d : Document) : Option LocationSettings := do
  match ← d.fieldValues? c [["key_field"], ["fallback_key_field"], ["address_pattern"],
      ["out_fields"], ["postcode_attribute"], ["house_number_attribute"],
      ["suffix_attribute"]] with
  | [key, fallback, pattern, outFields, postcode, houseNumber, suffix] =>
    return {
      keyField := ← orElse default.keyField asText? key
      fallbackKeyField := ← orElse default.fallbackKeyField asText? fallback
      addressPattern := ← orElse default.addressPattern asText? pattern
      outFields := ← orElse default.outFields (asList? asText?) outFields
      postcodeAttribute := ← orElse default.postcodeAttribute asText? postcode
      houseNumberAttribute := ← orElse default.houseNumberAttribute asText? houseNumber
      suffixAttribute := ← orElse default.suffixAttribute asText? suffix }
  | _ => failure

/-- Writes settings. -/
def toDocument (s : LocationSettings) : Document :=
  .record [("key_field", .text s.keyField), ("fallback_key_field", .text s.fallbackKeyField),
    ("address_pattern", .text s.addressPattern), ("out_fields", ofTexts s.outFields),
    ("postcode_attribute", .text s.postcodeAttribute),
    ("house_number_attribute", .text s.houseNumberAttribute),
    ("suffix_attribute", .text s.suffixAttribute)]

end LocationSettings

end SurveyDispatch
