import SurveyDispatch.Toml.Number
import SurveyDispatch.Toml.Table
import SurveyDispatch.Toml.Text

/-!
# Keys and values in TOML

A key is a bare word or a text, and a dotted key is a sequence of keys with dots between them.  A
value is a text, a truth value, a number, a list in brackets or a table in braces.  A list may go
on over several lines, hold comments and end in a comma.  A table in braces stays on its line and
does not end in a comma.

Values may nest 79 deep, and a dotted key has at most as many parts.  Dates are not read.
-/

namespace SurveyDispatch.Toml

/-- Takes the blanks off the front. -/
def skipBlanks (text : List Char) : List Char := text.dropWhile isBlank

/-- Takes blanks, line ends and comments off the front.  The first argument is true inside a
comment, which ends before a character that may not stand in it. -/
def skipLines : Bool → List Char → List Char
  | _, [] => []
  | true, c :: rest =>
    if c = '\n' then skipLines false rest
    else if isPlain c then skipLines true rest
    else c :: rest
  | false, c :: rest =>
    if isBlank c ∨ c = '\n' then skipLines false rest
    else if c = '#' then skipLines true rest
    else c :: rest

/-- How deep values nest. -/
def maxDepth : Nat := 79

/-! ## Keys -/

/-- Whether a character may stand in a bare key. -/
def isBare (c : Char) : Bool := c.isAlphanum || c == '-' || c == '_'

/-- A key. -/
def readKey? (text : List Char) : Option (String × List Char) :=
  match text.span isBare with
  | ([], text) => readShortText? text
  | (word, rest) => some (.ofList word, rest)

/-- A dotted key of at most so many parts, with blanks around them. -/
def readKeys? : Nat → List Char → Option (List String × List Char)
  | 0, _ => none
  | room + 1, text => do
    let (key, rest) ← readKey? (skipBlanks text)
    match skipBlanks rest with
    | '.' :: rest =>
      let (keys, rest) ← readKeys? room rest
      return (key :: keys, rest)
    | rest => return ([key], rest)

/-- A dotted key and its value. -/
def readPair? (value : List Char → Option (Document × List Char)) (text : List Char) :
    Option ((List String × Document) × List Char) := do
  let (keys, rest) ← readKeys? maxDepth text
  match rest with
  | '=' :: rest =>
    let (d, rest) ← value (skipBlanks rest)
    return ((keys, d), skipBlanks rest)
  | _ => none

/-! ## Values -/

/-- Whether a character may stand in a number or a truth value. -/
def isWordPart (c : Char) : Bool := c.isAlphanum || c == '-' || c == '+' || c == '.' || c == '_'

/-- The value that a word stands for. -/
def valueOfWord? (word : List Char) : Option Document :=
  if word = ['t', 'r', 'u', 'e'] then some (.bool true)
  else if word = ['f', 'a', 'l', 's', 'e'] then some (.bool false)
  else readNumber? word

/-- A value that is neither a list nor a table. -/
def readScalar? (text : List Char) : Option (Document × List Char) :=
  match readText? text with
  | some (s, rest) => some (.text s, rest)
  | none => do
    let (word, rest) := text.span isWordPart
    return (← valueOfWord? word, rest)

/-- The items of a list up to its closing bracket.  Every item takes at least one character. -/
def readItems? (value : List Char → Option (Document × List Char)) :
    Nat → List Char → Option (List Document × List Char)
  | 0, _ => none
  | fuel + 1, text =>
    match skipLines false text with
    | ']' :: rest => some ([], rest)
    | text => do
      let (d, rest) ← value text
      match skipLines false rest with
      | ',' :: rest =>
        let (ds, rest) ← readItems? value fuel rest
        return (d :: ds, rest)
      | ']' :: rest => return ([d], rest)
      | _ => none

/-- The pairs of a table from the first one to the closing brace. -/
def readPairs? (value : List Char → Option (Document × List Char)) :
    Nat → List Char → Option (List (List String × Document) × List Char)
  | 0, _ => none
  | fuel + 1, text => do
    let (pair, rest) ← readPair? value text
    match rest with
    | ',' :: rest =>
      let (pairs, rest) ← readPairs? value fuel rest
      return (pair :: pairs, rest)
    | '}' :: rest => return ([pair], rest)
    | _ => none

/-- A table behind its opening brace. -/
def readTable? (value : List Char → Option (Document × List Char)) (text : List Char) :
    Option (Document × List Char) := do
  match skipBlanks text with
  | '}' :: rest => return (.record [], rest)
  | text =>
    let (pairs, rest) ← readPairs? value text.length text
    return (← recordOfPairs? pairs, rest)

/-- A value in which lists and tables nest at most so deep. -/
def readValue? : Nat → (List Char → Option (Document × List Char))
  | 0 => readScalar?
  | room + 1 => fun
    | '[' :: rest => do
      let (items, rest) ← readItems? (readValue? room) (rest.length + 1) rest
      return (.list items, rest)
    | '{' :: rest => readTable? (readValue? room) rest
    | text => readScalar? text

end SurveyDispatch.Toml
