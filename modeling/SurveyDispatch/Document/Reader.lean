import SurveyDispatch.Document.Basic
import SurveyDispatch.Text.Ascii

/-!
# Reading documents

A document is read from the bytes of a JSON text.  The reader is strict.  Between the parts only
blank, tab, line feed and carriage return may stand, and nothing may follow the document.  Lists
and records may nest 127 deep.  Of fields with one name the last value counts, in the place of the
first.

A reader takes what it needs off the front of the bytes and gives the rest back.  The reader of
nested values is structural on how much deeper the nesting may go, and the readers of items and
fields on the number of bytes left.
-/

namespace SurveyDispatch.Document

open Ascii

/-! ## Texts -/

/-- Where the reader of a quoted text stands. -/
inductive TextState where
  /-- Between characters. -/
  | plain
  /-- After a backslash. -/
  | escape
  /-- Inside a numbered escape, with this many hexadecimal digits to come after the next one.  The
  first surrogate of a pair is kept. -/
  | hex (first : Option Nat) (more : Nat) (value : Nat)
  /-- After the first surrogate of a pair. -/
  | first (value : Nat)
  /-- After the first surrogate of a pair and a backslash. -/
  | firstEscape (value : Nat)

/-- The byte that a short escape stands for. -/
def shortEscape? (b : UInt8) : Option UInt8 :=
  match char b with
  | '"' => some quote
  | '\\' => some backslash
  | '/' => some 0x2F
  | 'b' => some 0x08
  | 'f' => some 0x0C
  | 'n' => some lineFeed
  | 'r' => some carriageReturn
  | 't' => some tab
  | _ => none

/-- Whether a number is the first of a surrogate pair. -/
def isFirstSurrogate (n : Nat) : Bool := 0xD800 ≤ n && n < 0xDC00

/-- Whether a number is the second of a surrogate pair. -/
def isSecondSurrogate (n : Nat) : Bool := 0xDC00 ≤ n && n < 0xE000

/-- The bytes of the character that a numbered escape ends, and where the reader stands after it.
A surrogate is only allowed as part of a pair. -/
def endOfHex? (first : Option Nat) (n : Nat) : Option (Bytes × TextState) :=
  match first with
  | some high =>
    if isSecondSurrogate n then
      some (Utf8.encodeChar (.ofNat (0x10000 + (high - 0xD800) * 0x400 + (n - 0xDC00))), .plain)
    else none
  | none =>
    if isFirstSurrogate n then some ([], .first n)
    else if isSecondSurrogate n then none
    else some (Utf8.encodeChar (.ofNat n), .plain)

/-- The bytes of a text up to its closing quote, with the escapes resolved. -/
def textBytes : TextState → Bytes → Option (Bytes × Bytes)
  | _, [] => none
  | .plain, b :: rest =>
    if b = quote then some ([], rest)
    else if b = backslash then textBytes .escape rest
    else if b < 0x20 then none
    else do
      let (bytes, rest) ← textBytes .plain rest
      return (b :: bytes, rest)
  | .escape, b :: rest =>
    if b = letterU then textBytes (.hex none 3 0) rest
    else do
      let c ← shortEscape? b
      let (bytes, rest) ← textBytes .plain rest
      return (c :: bytes, rest)
  | .hex first more value, b :: rest => do
    let value := value * 16 + (← hexValue? b)
    match more with
    | more + 1 => textBytes (.hex first more value) rest
    | 0 =>
      let (front, state) ← endOfHex? first value
      let (bytes, rest) ← textBytes state rest
      return (front ++ bytes, rest)
  | .first value, b :: rest =>
    if b = backslash then textBytes (.firstEscape value) rest else none
  | .firstEscape value, b :: rest =>
    if b = letterU then textBytes (.hex (some value) 3 0) rest else none

/-- The text after an opening quote. -/
def readText (bytes : Bytes) : Option (String × Bytes) := do
  let (content, rest) ← textBytes .plain bytes
  return (← Utf8.decode content, rest)

/-! ## Values -/

/-- Whether a byte can be part of a number. -/
def isNumberByte (b : UInt8) : Bool :=
  (char b).isDigit || char b == '-' || char b == '+' || char b == '.' || char b == 'e' ||
    char b == 'E'

/-- The number at the front of the bytes. -/
def readNumber (bytes : Bytes) : Option (Number × Bytes) := do
  let n ← Number.read? ((bytes.takeWhile isNumberByte).map char)
  return (n, bytes.dropWhile isNumberByte)

/-- Takes a word off the front of the bytes. -/
def expect (word : String) (bytes : Bytes) : Option Bytes :=
  let w := Utf8.encode word
  if w.isPrefixOf bytes then some (bytes.drop w.length) else none

/-- The value at the front of the bytes, if it is neither a list nor a record. -/
def readScalar (bytes : Bytes) : Option (Document × Bytes) :=
  match bytes with
  | [] => none
  | b :: rest =>
    match char b with
    | '"' => do let (s, rest) ← readText rest; return (text s, rest)
    | 'n' => do return (null, ← expect "null" bytes)
    | 't' => do return (bool true, ← expect "true" bytes)
    | 'f' => do return (bool false, ← expect "false" bytes)
    | _ => do let (n, rest) ← readNumber bytes; return (number n, rest)

/-- The items of a list from the first one to the closing bracket. -/
def readItems {α : Type} (item : Bytes → Option (α × Bytes)) : Nat → Bytes → Option (List α × Bytes)
  | 0, _ => none
  | fuel + 1, bytes => do
    let (x, rest) ← item bytes
    match skipBlanks rest with
    | comma :: rest => do
      let (xs, rest) ← readItems item fuel rest
      return (x :: xs, rest)
    | closeBracket :: rest => return ([x], rest)
    | _ => none

/-- The items of a list after its opening bracket. -/
def readList {α : Type} (item : Bytes → Option (α × Bytes)) (bytes : Bytes) :
    Option (List α × Bytes) :=
  match skipBlanks bytes with
  | closeBracket :: rest => some ([], rest)
  | bytes => readItems item (bytes.length + 1) bytes

/-- A field: its name in quotes, a colon and its value. -/
def readField {κ α : Type} (name : Bytes → Option (κ × Bytes)) (value : Bytes → Option (α × Bytes))
    (bytes : Bytes) : Option ((κ × α) × Bytes) :=
  match skipBlanks bytes with
  | quote :: rest => do
    let (n, rest) ← name rest
    match skipBlanks rest with
    | colon :: rest => do
      let (v, rest) ← value rest
      return ((n, v), rest)
    | _ => none
  | _ => none

/-- The fields of a record from the first one to the closing brace. -/
def readFields {κ α : Type} (name : Bytes → Option (κ × Bytes))
    (value : Bytes → Option (α × Bytes)) : Nat → Bytes → Option (List (κ × α) × Bytes)
  | 0, _ => none
  | fuel + 1, bytes => do
    let (f, rest) ← readField name value bytes
    match skipBlanks rest with
    | comma :: rest => do
      let (fs, rest) ← readFields name value fuel rest
      return (f :: fs, rest)
    | closeBrace :: rest => return ([f], rest)
    | _ => none

/-- The fields of a record after its opening brace, in the order in which they are written. -/
def readRecord {κ α : Type} (name : Bytes → Option (κ × Bytes))
    (value : Bytes → Option (α × Bytes)) (bytes : Bytes) : Option (List (κ × α) × Bytes) :=
  match skipBlanks bytes with
  | closeBrace :: rest => some ([], rest)
  | bytes => readFields name value (bytes.length + 1) bytes

/-- A record of fields as they are written.  Of one name the last value counts, in the place of
the first. -/
def recordOf (fields : List (String × Document)) : Document :=
  record (fields.foldl (fun acc f => putField f.1 f.2 acc) [])

/-- The value at the front of the bytes, where lists and records may nest `room` deep. -/
def readValue : Nat → (Bytes → Option (Document × Bytes))
  | 0 => fun bytes => readScalar (skipBlanks bytes)
  | room + 1 => fun bytes =>
    match skipBlanks bytes with
    | openBracket :: rest => do
      let (items, rest) ← readList (readValue room) rest
      return (list items, rest)
    | openBrace :: rest => do
      let (fields, rest) ← readRecord readText (readValue room) rest
      return (recordOf fields, rest)
    | bytes => readScalar bytes

/-- How deep lists and records may nest. -/
def maxDepth : Nat := 127

/-- The document that takes up the whole of the bytes, where lists and records may nest `room`
deep. -/
def readWithin? (room : Nat) (bytes : Bytes) : Option Document := do
  let (d, rest) ← readValue room bytes
  if skipBlanks rest = [] then some d else none

/-- The document that takes up the whole of the bytes. -/
def read? (bytes : Bytes) : Option Document := readWithin? maxDepth bytes

/-- The document that takes up the whole of a text. -/
def ofText (s : String) : Option Document := read? (Utf8.encode s)

end SurveyDispatch.Document

/-! ## The words of the reader -/

namespace SurveyDispatch

/-- What the reader says about bytes that hold no document.  Its words are those of a library, and
here they are an inferred model, so that no function has to pass them on. -/
class ReaderWording where
  /-- The words about bytes, where they are known. -/
  refusal? : Bytes → Option String

/-- Nothing is known about the words of the reader. -/
instance : ReaderWording := ⟨fun _ => none⟩

/-- A text with the words of the reader behind it. -/
def ReaderWording.append (text : String) : Option String → String
  | some words => s!"{text}: {words}"
  | none => text

end SurveyDispatch
