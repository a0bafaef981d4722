import SurveyDispatch.Text.Ascii

/-!
# Form encoding

Form encoding writes a text with few characters, so that it can stand in a URL.  Its bytes are
written one by one: a blank as a plus sign, a byte of the kept characters as it is, and every other
byte as a percent sign with two hexadecimal digits.  Queries and object names keep different
characters beside letters and digits.

`FormEncoding.decode` reads the bytes back.
-/

namespace SurveyDispatch.FormEncoding

/-- Letters, digits and the characters that queries keep. -/
def keptInQuery (c : Char) : Bool := c.isAlphanum || c == '*' || c == '-' || c == '.' || c == '_'

/-- Letters, digits and the characters that object names keep. -/
def keptInName (c : Char) : Bool := c.isAlphanum || c == '~' || c == '-' || c == '.' || c == '_'

/-- The hexadecimal digit of a number below sixteen, in upper case. -/
def hexDigit (n : Nat) : Char := (Nat.digitChar n).toUpper

/-- The characters for a byte. -/
def encodeByte (kept : Char → Bool) (b : UInt8) : List Char :=
  if b = Ascii.blank then ['+']
  else if kept (Ascii.char b) then [Ascii.char b]
  else ['%', hexDigit (b.toNat / 16), hexDigit (b.toNat % 16)]

/-- The encoding of a text. -/
def encode (kept : Char → Bool) (s : String) : List Char :=
  (Utf8.encode s).flatMap (encodeByte kept)

/-- The value of a hexadecimal digit of either case. -/
def hexValue? (c : Char) : Option Nat :=
  if c.toNat < 0x100 then Ascii.hexValue? (.ofNat c.toNat) else none

/-- The bytes that an encoded text stands for.  A percent sign without two digits stands for
itself. -/
def decode : List Char → Bytes
  | [] => []
  | '+' :: rest => Ascii.blank :: decode rest
  | '%' :: a :: b :: rest =>
    match hexValue? a, hexValue? b with
    | some x, some y => .ofNat (x * 16 + y) :: decode rest
    | _, _ => Utf8.encodeChar '%' ++ decode (a :: b :: rest)
  | c :: rest => Utf8.encodeChar c ++ decode rest

example : encode keptInName "a b/é*~" = "a+b%2F%C3%A9%2A~".toList := by decide
example : decode "a+b%2F%C3%A9%2A~".toList = Utf8.encode "a b/é*~" := by decide

end SurveyDispatch.FormEncoding
