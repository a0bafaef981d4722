import SurveyDispatch.Text.Utf8

/-!
# Bytes of punctuation

The bytes that structure a JSON document, by name, so that readers can match on them.
-/

namespace SurveyDispatch.Ascii

/-- The tab. -/
@[match_pattern] def tab : UInt8 := 0x09

/-- The line feed. -/
@[match_pattern] def lineFeed : UInt8 := 0x0A

/-- The carriage return. -/
@[match_pattern] def carriageReturn : UInt8 := 0x0D

/-- The blank. -/
@[match_pattern] def blank : UInt8 := 0x20

/-- The double quote. -/
@[match_pattern] def quote : UInt8 := 0x22

/-- The comma. -/
@[match_pattern] def comma : UInt8 := 0x2C

/-- The colon. -/
@[match_pattern] def colon : UInt8 := 0x3A

/-- The opening bracket. -/
@[match_pattern] def openBracket : UInt8 := 0x5B

/-- The backslash. -/
@[match_pattern] def backslash : UInt8 := 0x5C

/-- The closing bracket. -/
@[match_pattern] def closeBracket : UInt8 := 0x5D

/-- The letter that starts a numbered escape. -/
@[match_pattern] def letterU : UInt8 := 0x75

/-- The opening brace. -/
@[match_pattern] def openBrace : UInt8 := 0x7B

/-- The closing brace. -/
@[match_pattern] def closeBrace : UInt8 := 0x7D

/-- Whether a byte is a blank between the parts of a document. -/
def isBlank (b : UInt8) : Bool := b == blank || b == tab || b == lineFeed || b == carriageReturn

/-- Takes the blanks off the front. -/
def skipBlanks (bytes : Bytes) : Bytes := bytes.dropWhile isBlank

/-- The character of a byte below U+0100. -/
def char (b : UInt8) : Char := .ofNat b.toNat

/-- The value of a hexadecimal digit of either case. -/
def hexValue? (b : UInt8) : Option Nat :=
  let n := b.toNat
  if 0x30 ≤ n ∧ n ≤ 0x39 then some (n - 0x30)
  else if 0x41 ≤ n ∧ n ≤ 0x46 then some (n - 0x41 + 10)
  else if 0x61 ≤ n ∧ n ≤ 0x66 then some (n - 0x61 + 10)
  else none

end SurveyDispatch.Ascii
