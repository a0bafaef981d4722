import SurveyDispatch.Toml.Value

/-!
# TOML files

A file is read line by line into statements: a value at a dotted key, or a header.  The statements
before the first header fill the file's own table, and those behind a header fill the table that it
opens.  The whole is a record.
-/

namespace SurveyDispatch.Toml

/-! ## Statements -/

/-- A line of a file. -/
inductive Statement where
  /-- A value at a dotted key. -/
  | value (keys : List String) (d : Document)
  /-- A header that opens a table or, where it is a list, adds one to a list of tables. -/
  | header (isList : Bool) (keys : List String)

/-- What follows the end of a line, at which a comment may stand. -/
def endLine? (text : List Char) : Option (List Char) :=
  let text := match skipBlanks text with
    | '#' :: rest => rest.dropWhile isPlain
    | text => text
  match text with
  | [] => some []
  | '\n' :: rest => some rest
  | _ => none

/-- A header behind its opening bracket or brackets, which are closed by as many. -/
def readHeader? (isList : Bool) (text : List Char) : Option (Statement × List Char) := do
  let (keys, rest) ← readKeys? maxDepth text
  match isList, rest with
  | false, ']' :: rest => return (.header false keys, rest)
  | true, ']' :: ']' :: rest => return (.header true keys, rest)
  | _, _ => none

/-- The statement at the front of a text. -/
def readStatement? : List Char → Option (Statement × List Char)
  | '[' :: '[' :: rest => readHeader? true rest
  | '[' :: rest => readHeader? false rest
  | text => do
    let ((keys, d), rest) ← readPair? (readValue? maxDepth) text
    return (.value keys d, rest)

/-- The statements of a text.  Each of them, and each line without one, takes at least one
character. -/
def readStatements? : Nat → List Char → Option (List Statement)
  | 0, _ => none
  | fuel + 1, text =>
    match skipBlanks text with
    | [] => some []
    | '\n' :: rest => readStatements? fuel rest
    | '#' :: rest => do readStatements? fuel (← endLine? ('#' :: rest))
    | text => do
      let (statement, rest) ← readStatement? text
      return statement :: (← readStatements? fuel (← endLine? rest))

/-! ## Sections -/

/-- A header and the values behind it. -/
structure Section where
  /-- Whether the header adds to a list of tables. -/
  isList : Bool
  /-- The keys of the header. -/
  keys : List String
  /-- The values at their dotted keys. -/
  values : List (List String × Document)

/-- The values before the first header, and the sections. -/
def sections : List Statement → List (List String × Document) × List Section
  | [] => ([], [])
  | .value keys d :: rest => ((keys, d) :: (sections rest).1, (sections rest).2)
  | .header isList keys :: rest => ([], ⟨isList, keys, (sections rest).1⟩ :: (sections rest).2)

/-- Sets values in a table, one after the other. -/
def setValues? (values : List (List String × Document)) (entries : Entries) : Option Entries :=
  values.foldlM (fun entries v => setValue? entries v.1 v.2) entries

/-- The record that statements describe. -/
def recordOf? (statements : List Statement) : Option Document := do
  let (values, parts) := sections statements
  let entries ← setValues? values []
  let entries ← parts.foldlM (fun entries s =>
    openTable? s.isList entries s.keys (setValues? s.values)) entries
  return .record (fieldsOf entries)

/-- A text without the mark that may stand at its start. -/
def withoutMark : List Char → List Char
  | '\ufeff' :: text => text
  | text => text

/-- The record that a file describes. -/
def read? (file : String) : Option Document := do
  let text := unifyLines (withoutMark file.toList)
  recordOf? (← readStatements? (text.length + 1) text)

end SurveyDispatch.Toml
