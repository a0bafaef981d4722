import SurveyDispatch.Text.Hexadecimal

/-!
# Texts in TOML

A text stands between double quotes, and then a backslash escapes what follows it, or between
apostrophes, and then every character stands for itself.  Between three of either it may go on over
several lines.  A line end right behind the opening quotes does not count, and a backslash at the
end of a line takes away the line end and everything blank behind it.

Controls other than the tab are nowhere allowed.
-/

namespace SurveyDispatch.Toml

/-- Lines end with a line feed.  A carriage return in front of it is dropped. -/
def unifyLines : List Char → List Char
  | '\r' :: '\n' :: rest => '\n' :: unifyLines rest
  | c :: rest => c :: unifyLines rest
  | [] => []

/-- Whether a character may stand in comments and texts. -/
def isPlain (c : Char) : Bool := c == '\t' || (0x20 ≤ c.toNat && c.toNat != 0x7F)

/-- Whether a character is blank within a line. -/
def isBlank (c : Char) : Bool := c == ' ' || c == '\t'

/-- How a text is quoted. -/
structure Quoting where
  /-- The character that opens and closes the text. -/
  quote : Char
  /-- Whether a backslash escapes what follows it. -/
  escapes : Bool
  /-- Whether the text may go on over several lines. -/
  long : Bool

/-- The character that a letter behind a backslash stands for. -/
def shortEscape? : Char → Option Char
  | '"' => some '"'
  | '\\' => some '\\'
  | 'b' => some '\x08'
  | 'f' => some '\x0c'
  | 'n' => some '\n'
  | 'r' => some '\r'
  | 't' => some '\t'
  | _ => none

/-- The character that is escaped behind a backslash. -/
def readEscape? : List Char → Option (Char × List Char)
  | 'u' :: rest => Hexadecimal.readChar? 4 rest
  | 'U' :: rest => Hexadecimal.readChar? 8 rest
  | c :: rest => do return (← shortEscape? c, rest)
  | [] => none

/-- What follows the end of a line and everything blank behind it, where the line ends. -/
def afterLineEnd? (text : List Char) : Option (List Char) :=
  match text.dropWhile isBlank with
  | '\n' :: rest => some (rest.dropWhile fun c => isBlank c || c == '\n')
  | _ => none

/-- The end of a text at a run of quotes.  One quote closes a text on one line and three close a
long one, to which up to two more quotes in front of them belong. -/
def closing? (q : Quoting) (text : List Char) : Option (List Char × List Char) :=
  let run := (text.takeWhile (· == q.quote)).length
  if q.long then
    if run < 3 then none
    else
      let own := min (run - 3) 2
      some (List.replicate own q.quote, text.drop (3 + own))
  else some ([], text.drop 1)

/-- A text behind its opening quotes.  Every step takes at least one character. -/
def readQuoted? (q : Quoting) : Nat → List Char → Option (List Char × List Char)
  | 0, _ => none
  | _, [] => none
  | fuel + 1, c :: rest => do
    if c = q.quote then
      match closing? q (c :: rest) with
      | some closed => return closed
      | none =>
        let (text, rest) ← readQuoted? q fuel rest
        return (c :: text, rest)
    else if c = '\\' ∧ q.escapes then
      match if q.long then afterLineEnd? rest else none with
      | some rest => readQuoted? q fuel rest
      | none =>
        let (x, rest) ← readEscape? rest
        let (text, rest) ← readQuoted? q fuel rest
        return (x :: text, rest)
    else if isPlain c ∨ q.long ∧ c = '\n' then
      let (text, rest) ← readQuoted? q fuel rest
      return (c :: text, rest)
    else failure

/-- A text behind its opening quotes, as a whole. -/
def readBody? (q : Quoting) (text : List Char) : Option (String × List Char) := do
  let text := match q.long, text with
    | true, '\n' :: rest => rest
    | _, text => text
  let (content, rest) ← readQuoted? q text.length text
  return (.ofList content, rest)

/-- A text on one line. -/
def readShortText? : List Char → Option (String × List Char)
  | '"' :: rest => readBody? ⟨'"', true, false⟩ rest
  | '\x27' :: rest => readBody? ⟨'\x27', false, false⟩ rest
  | _ => none

/-- A text. -/
def readText? : List Char → Option (String × List Char)
  | '"' :: '"' :: '"' :: rest => readBody? ⟨'"', true, true⟩ rest
  | '\x27' :: '\x27' :: '\x27' :: rest => readBody? ⟨'\x27', false, true⟩ rest
  | text => readShortText? text

example : readText? "\"a\\tb\\u00e9\" rest".toList = some ("a\tbé", " rest".toList) := by decide
example : readText? "'a\\t'".toList = some ("a\\t", []) := by decide
example : readText? "\"\"\"\na \\  \n  b\"\"\"\"\"".toList = some ("a b\"\"", []) := by decide
example : readText? "'''x''y'''".toList = some ("x''y", []) := by decide
example : readText? "\"a\nb\"".toList = none := by decide
example : readText? "\"\\ud800\"".toList = none := by decide

end SurveyDispatch.Toml
