import SurveyDispatch.Text.Utf8

/-!
# Base64

Base64 writes three bytes as four characters of six bits each.  One or two bytes at the end are
filled up with zero bits, and equals signs fill the last group.  Reading is strict: the filling must
be there, its bits must be zero, and no other characters may stand between.
-/

namespace SurveyDispatch.Base64

/-- The character for six bits. -/
def digit (n : Nat) : Char :=
  if n < 26 then .ofNat ('A'.toNat + n)
  else if n < 52 then .ofNat ('a'.toNat + (n - 26))
  else if n < 62 then .ofNat ('0'.toNat + (n - 52))
  else if n = 62 then '+' else '/'

/-- The six bits of a character. -/
def value? (c : Char) : Option Nat :=
  let n := c.toNat
  if 'A'.toNat ≤ n ∧ n ≤ 'Z'.toNat then some (n - 'A'.toNat)
  else if 'a'.toNat ≤ n ∧ n ≤ 'z'.toNat then some (n - 'a'.toNat + 26)
  else if '0'.toNat ≤ n ∧ n ≤ '9'.toNat then some (n - '0'.toNat + 52)
  else if c = '+' then some 62
  else if c = '/' then some 63
  else none

/-- The characters for bytes. -/
def encode : Bytes → List Char
  | [] => []
  | [a] => [digit (a.toNat / 4), digit (a.toNat % 4 * 16), '=', '=']
  | [a, b] =>
    [digit (a.toNat / 4), digit (a.toNat % 4 * 16 + b.toNat / 16), digit (b.toNat % 16 * 4), '=']
  | a :: b :: c :: rest =>
    digit (a.toNat / 4) :: digit (a.toNat % 4 * 16 + b.toNat / 16) ::
      digit (b.toNat % 16 * 4 + c.toNat / 64) :: digit (c.toNat % 64) :: encode rest

/-- The bytes of a last group with an equals sign at its end. -/
def decodeFilled (a b c : Char) : Option Bytes := do
  let x ← value? a
  let y ← value? b
  if c = '=' then
    if y % 16 = 0 then return [.ofNat (x * 4 + y / 16)] else none
  else do
    let z ← value? c
    if z % 4 = 0 then return [.ofNat (x * 4 + y / 16), .ofNat (y % 16 * 16 + z / 4)] else none

/-- The bytes that characters stand for. -/
def decode : List Char → Option Bytes
  | [] => some []
  | a :: b :: c :: d :: rest =>
    if d = '=' then if rest = [] then decodeFilled a b c else none
    else do
      let x ← value? a
      let y ← value? b
      let z ← value? c
      let w ← value? d
      let bytes ← decode rest
      return .ofNat (x * 4 + y / 16) :: .ofNat (y % 16 * 16 + z / 4) :: .ofNat (z % 4 * 64 + w)
        :: bytes
  | _ => none

example : encode [0x66, 0x6F, 0x6F, 0x62] = "Zm9vYg==".toList := by decide
example : decode "Zm9vYg==".toList = some [0x66, 0x6F, 0x6F, 0x62] := by decide
example : decode "Zm9vYh==".toList = none := by decide
example : decode "Zm9vYg".toList = none := by decide

end SurveyDispatch.Base64
