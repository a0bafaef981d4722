import SurveyDispatch.Document.Reader

/-!
# Outlines of documents

A message is read straight from its bytes, field by field.  First its outline is taken: the names
of its fields and the bytes of their values.  Only the values of known fields are then read.

A value that nobody reads is only skipped.  Its brackets, commas, quotes and number texts have to be
in order, but it may nest to any depth, its numbers may have any size, and its texts may hold
unpaired surrogates and bytes that encode no character.
-/

namespace SurveyDispatch.Document

open Ascii

/-- Skips a text after its opening quote.  The first argument counts the hexadecimal digits that a
numbered escape still needs, and the second is true after a backslash. -/
def skipTextFrom : Nat → Bool → Bytes → Option Bytes
  | _, _, [] => none
  | hex + 1, _, b :: rest => do
    let _ ← hexValue? b
    skipTextFrom hex false rest
  | 0, true, b :: rest =>
    if b = letterU then skipTextFrom 4 false rest
    else do
      let _ ← shortEscape? b
      skipTextFrom 0 false rest
  | 0, false, b :: rest =>
    if b = quote then some rest
    else if b = backslash then skipTextFrom 0 true rest
    else if b < 0x20 then none
    else skipTextFrom 0 false rest

/-- Skips a text after its opening quote. -/
def skipText (bytes : Bytes) : Option (Unit × Bytes) := do return ((), ← skipTextFrom 0 false bytes)

/-- Skips a value that is neither a list nor a record. -/
def skipScalar (bytes : Bytes) : Option (Unit × Bytes) :=
  match bytes with
  | [] => none
  | b :: rest =>
    match char b with
    | '"' => skipText rest
    | 'n' => do return ((), ← expect "null" bytes)
    | 't' => do return ((), ← expect "true" bytes)
    | 'f' => do return ((), ← expect "false" bytes)
    | _ => do
      let _ ← Number.Literal.read? ((bytes.takeWhile isNumberByte).map char)
      return ((), bytes.dropWhile isNumberByte)

/-- Skips a value with at most so many levels of lists and records. -/
def skipValue : Nat → (Bytes → Option (Unit × Bytes))
  | 0 => fun bytes => skipScalar (skipBlanks bytes)
  | levels + 1 => fun bytes =>
    match skipBlanks bytes with
    | openBracket :: rest => do
      let (_, rest) ← readList (skipValue levels) rest
      return ((), rest)
    | openBrace :: rest => do
      let (_, rest) ← readRecord skipText (skipValue levels) rest
      return ((), rest)
    | bytes => skipScalar bytes

/-- The bytes of the value at the front.  A value has no more levels than bytes. -/
def rawValue (bytes : Bytes) : Option (Bytes × Bytes) := do
  let (_, rest) ← skipValue bytes.length bytes
  return (bytes.take (bytes.length - rest.length), rest)

/-- The bytes of the value of a known field.  Two values are an error. -/
def rawValueOf? (fields : List (String × Bytes)) (name : String) : Option (Option Bytes) :=
  match fields.filter (·.1 == name) with
  | [] => some none
  | [f] => some (some f.2)
  | _ => none

/-- The bytes of the values of known fields.  The document is a record, where unknown fields are
skipped, or a list of values in the order of the fields. -/
def rawFields? (names : List String) (bytes : Bytes) : Option (List (Option Bytes)) :=
  match skipBlanks bytes with
  | openBrace :: rest => do
    let (fields, rest) ← readRecord readText rawValue rest
    if skipBlanks rest = [] then names.mapM (rawValueOf? fields) else none
  | openBracket :: rest => do
    let (items, rest) ← readList rawValue rest
    if skipBlanks rest = [] ∧ items.length ≤ names.length then
      some ((List.range names.length).map fun i => items[i]?)
    else none
  | _ => none

/-- The text that bytes hold. -/
def readTextOnly? (bytes : Bytes) : Option String := do (← readWithin? 0 bytes).asText?

/-- Null, or the text that bytes hold. -/
def readTextOrNull? (bytes : Bytes) : Option (Option String) := do
  match ← readWithin? 0 bytes with
  | null => return none
  | text s => return some s
  | _ => failure

end SurveyDispatch.Document
