import SurveyDispatch.Document.Basic

/-!
# Writing documents

A document is written as JSON, either compactly (`Document.write`), which is the form of messages
and of values inside texts, or laid out over lines with two blanks per level
(`Document.writeLines`), which is the form of reports.

In texts only the quote, the backslash and the controls below U+0020 are escaped.
-/

namespace SurveyDispatch.Document

/-- The hexadecimal digit of a number below sixteen, in lower case. -/
def hexDigit (n : Nat) : Char := Nat.digitChar n

/-- A character inside a quoted text. -/
def writeChar (c : Char) : List Char :=
  if c = '"' then ['\\', '"']
  else if c = '\\' then ['\\', '\\']
  else if c.toNat = 0x08 then ['\\', 'b']
  else if c.toNat = 0x0C then ['\\', 'f']
  else if c = '\n' then ['\\', 'n']
  else if c = '\r' then ['\\', 'r']
  else if c = '\t' then ['\\', 't']
  else if c.toNat < 0x20 then
    ['\\', 'u', '0', '0', hexDigit (c.toNat / 16), hexDigit (c.toNat % 16)]
  else [c]

/-- A text in quotes. -/
def writeText (s : String) : List Char := '"' :: s.toList.flatMap writeChar ++ ['"']

mutual

/-- The compact form of a document. -/
def chars : Document → List Char
  | null => ['n', 'u', 'l', 'l']
  | bool true => ['t', 'r', 'u', 'e']
  | bool false => ['f', 'a', 'l', 's', 'e']
  | number n => n.write
  | text s => writeText s
  | list [] => ['[', ']']
  | list (x :: xs) => '[' :: chars x ++ charsOfItems xs
  | record [] => ['{', '}']
  | record ((name, v) :: rest) => '{' :: writeText name ++ ':' :: chars v ++ charsOfFields rest

/-- The items after the first one, each behind a comma, and the closing bracket. -/
def charsOfItems : List Document → List Char
  | [] => [']']
  | x :: xs => ',' :: chars x ++ charsOfItems xs

/-- The fields after the first one, each behind a comma, and the closing brace. -/
def charsOfFields : List (String × Document) → List Char
  | [] => ['}']
  | (name, v) :: rest => ',' :: writeText name ++ ':' :: chars v ++ charsOfFields rest

end

/-- The compact text of a document. -/
def write (d : Document) : String := String.ofList d.chars

/-- A new line with two blanks per level. -/
def newLine (level : Nat) : List Char := '\n' :: List.replicate (2 * level) ' '

mutual

/-- The form of a document over lines, at a level of nesting. -/
def lines (level : Nat) : Document → List Char
  | list [] => ['[', ']']
  | list (x :: xs) =>
    '[' :: newLine (level + 1) ++ lines (level + 1) x ++ linesOfItems level xs
  | record [] => ['{', '}']
  | record ((name, v) :: rest) =>
    '{' :: newLine (level + 1) ++ writeText name ++ ':' :: ' ' :: lines (level + 1) v
      ++ linesOfFields level rest
  | d => chars d

/-- The items after the first one, each on a line of its own, and the closing bracket. -/
def linesOfItems (level : Nat) : List Document → List Char
  | [] => newLine level ++ [']']
  | x :: xs => ',' :: newLine (level + 1) ++ lines (level + 1) x ++ linesOfItems level xs

/-- The fields after the first one, each on a line of its own, and the closing brace. -/
def linesOfFields (level : Nat) : List (String × Document) → List Char
  | [] => newLine level ++ ['}']
  | (name, v) :: rest =>
    ',' :: newLine (level + 1) ++ writeText name ++ ':' :: ' ' :: lines (level + 1) v
      ++ linesOfFields level rest

end

/-- The text of a document over lines. -/
def writeLines (d : Document) : String := String.ofList (lines 0 d)

example : (list [null, list [], text "a\n\"é"]).write = "[null,[],\"a\\n\\\"é\"]" := by decide
example : (record [("a", list [bool true])]).writeLines =
    "\x7b\n  \"a\": [\n    true\n  ]\n\x7d" := by decide

end SurveyDispatch.Document
