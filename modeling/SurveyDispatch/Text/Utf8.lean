/-!
# Bytes and UTF-8

Objects, files and messages are sequences of bytes.  `Utf8.encode` writes a text as bytes and
`Utf8.decode` reads bytes as a text.  Reading is strict: a stray tail, a missing tail, an encoding
longer than needed, a surrogate and a number past U+10FFFF are all refused, so a text has exactly
one sequence of bytes.

`Utf8.decodeFrom` is structural on the bytes, so closed tests are `by decide`.
-/

namespace SurveyDispatch

/-- The content of an object, a file or a message. -/
abbrev Bytes := List UInt8

namespace Utf8

/-- The bytes of one character: itself below U+0080, else a lead byte and one to three tails of
six bits each. -/
def encodeChar (c : Char) : Bytes :=
  let n := c.toNat
  if n < 0x80 then [.ofNat n]
  else if n < 0x800 then [.ofNat (0xC0 + n / 0x40), .ofNat (0x80 + n % 0x40)]
  else if n < 0x10000 then
    [.ofNat (0xE0 + n / 0x1000), .ofNat (0x80 + n / 0x40 % 0x40), .ofNat (0x80 + n % 0x40)]
  else
    [.ofNat (0xF0 + n / 0x40000), .ofNat (0x80 + n / 0x1000 % 0x40),
      .ofNat (0x80 + n / 0x40 % 0x40), .ofNat (0x80 + n % 0x40)]

/-- The bytes of a sequence of characters. -/
def encodeChars (cs : List Char) : Bytes := cs.flatMap encodeChar

/-- The bytes of a text. -/
def encode (s : String) : Bytes := encodeChars s.toList

/-- A character whose lead byte has been read. -/
structure Pending where
  /-- The bits read so far. -/
  bits : Nat
  /-- How many tails are to come after the next one. -/
  more : Nat
  /-- The least number that needs this many tails. -/
  low : Nat

/-- What a lead byte announces. -/
def lead? (b : UInt8) : Option Pending :=
  let n := b.toNat
  if 0xC0 ≤ n ∧ n < 0xE0 then some ⟨n - 0xC0, 0, 0x80⟩
  else if 0xE0 ≤ n ∧ n < 0xF0 then some ⟨n - 0xE0, 1, 0x800⟩
  else if 0xF0 ≤ n ∧ n < 0xF8 then some ⟨n - 0xF0, 2, 0x10000⟩
  else none

/-- The six bits a tail byte carries. -/
def tail? (b : UInt8) : Option Nat :=
  if 0x80 ≤ b.toNat ∧ b.toNat < 0xC0 then some (b.toNat - 0x80) else none

/-- The character with number `n`, refused below `low`, where a shorter encoding exists. -/
def scalar? (low n : Nat) : Option Char :=
  if h : n.isValidChar then if low ≤ n then some (Char.ofNatAux n h) else none else none

/-- The characters that a sequence of bytes encodes, the first of them possibly begun already. -/
def decodeFrom : Option Pending → Bytes → Option (List Char)
  | none, [] => some []
  | some _, [] => none
  | none, b :: rest =>
    if b.toNat < 0x80 then return .ofNat b.toNat :: (← decodeFrom none rest)
    else do decodeFrom (some (← lead? b)) rest
  | some p, b :: rest => do
    let bits := p.bits * 0x40 + (← tail? b)
    match p.more with
    | 0 => return (← scalar? p.low bits) :: (← decodeFrom none rest)
    | more + 1 => decodeFrom (some ⟨bits, more, p.low⟩) rest

/-- The characters that a sequence of bytes encodes. -/
def decodeChars (bytes : Bytes) : Option (List Char) := decodeFrom none bytes

/-- The text that a sequence of bytes encodes. -/
def decode (bytes : Bytes) : Option String := (decodeChars bytes).map String.ofList

example : encode "é" = [0xC3, 0xA9] := by decide
example : decode [0xF0, 0x9F, 0x98, 0x80] = some "😀" := by decide
example : decode [0xC0, 0x80] = none := by decide
example : decode [0xED, 0xA0, 0x80] = none := by decide

end Utf8

end SurveyDispatch
