import SurveyDispatch.Document.Path
import SurveyDispatch.Document.Writer
import SurveyDispatch.Dictionary

/-!
# Alerts

An alert is the message of a rule set.  Its template is text with names in braces, and each name
stands for the value at a path of the record.  A doubled brace is a plain brace.

A template is read into pieces (`Template.read`), and pieces are written as a template
(`Template.write`).  The pieces that are read are in *normal form*: no text is empty, no two texts
are adjacent, and every name is there and free of braces.
-/

namespace SurveyDispatch

/-- A piece of a template. -/
inductive Piece where
  /-- Text as it stands. -/
  | plain (content : List Char)
  /-- The value of a variable. -/
  | variable (name : List Char)
  deriving DecidableEq, Repr

/-- What is wrong with a template. -/
inductive TemplateFault where
  /-- An opening brace inside a placeholder. -/
  | nestedBrace
  /-- A placeholder without its closing brace. -/
  | unterminated
  /-- A placeholder without a name. -/
  | emptyPlaceholder
  /-- A closing brace on its own. -/
  | singleClosingBrace
  deriving DecidableEq, Repr

/-- The wording of a fault. -/
def TemplateFault.message : TemplateFault → String
  | nestedBrace => "nested '\x7b' in placeholder"
  | unterminated => "unterminated placeholder"
  | emptyPlaceholder => "empty placeholder"
  | singleClosingBrace => "single '\x7d' outside placeholder"

namespace Template

/-- A piece of text in front of others, unless it is empty. -/
def consPlain (content : List Char) (pieces : List Piece) : List Piece :=
  if content.isEmpty then pieces else .plain content :: pieces

/-- Reads a template from inside or outside a placeholder.  The first argument holds the name read
so far if inside, the second the text since the last placeholder.  Both are in reading order. -/
def readFrom : Option (List Char) → List Char → List Char → Except TemplateFault (List Piece)
  | none, text, [] => .ok (consPlain text [])
  | some _, _, [] => .error .unterminated
  | some name, text, c :: rest =>
    if c = '}' then
      if name.isEmpty then .error .emptyPlaceholder
      else do return consPlain text (.variable name :: (← readFrom none [] rest))
    else if c = '{' then .error .nestedBrace
    else readFrom (some (name ++ [c])) text rest
  | none, text, '{' :: '{' :: rest => readFrom none (text ++ ['{']) rest
  | none, text, '}' :: '}' :: rest => readFrom none (text ++ ['}']) rest
  | none, text, c :: rest =>
    if c = '{' then readFrom (some []) text rest
    else if c = '}' then .error .singleClosingBrace
    else readFrom none (text ++ [c]) rest

/-- The pieces of a template. -/
def read (template : String) : Except TemplateFault (List Piece) := readFrom none [] template.toList

/-- A character of text in a template. -/
def writeChar (c : Char) : List Char := if c = '{' ∨ c = '}' then [c, c] else [c]

/-- A piece in a template. -/
def writePiece : Piece → List Char
  | .plain content => content.flatMap writeChar
  | .variable name => '{' :: name ++ ['}']

/-- The template of pieces. -/
def write (pieces : List Piece) : List Char := pieces.flatMap writePiece

end Template

/-- A template with the paths of its variables. -/
structure Alert where
  /-- The template as written. -/
  template : String
  /-- Its pieces. -/
  pieces : List Piece
  /-- The path of each variable. -/
  paths : Dictionary String

/-- Why a template with variables is no alert. -/
inductive AlertFault where
  /-- The template is malformed. -/
  | malformed (fault : TemplateFault)
  /-- A placeholder names no variable. -/
  | undeclared (name : String)

namespace Alert

/-- The first name among the pieces that is not a variable. -/
def undeclared? (paths : Dictionary String) : List Piece → Option String
  | [] => none
  | .plain _ :: rest => undeclared? paths rest
  | .variable name :: rest =>
    if paths.contains (.ofList name) then undeclared? paths rest
    else some (.ofList name)

/-- The alert of a template.  All its placeholders must name variables. -/
def ofTemplate (template : String) (paths : Dictionary String) : Except AlertFault Alert :=
  match Template.read template with
  | .error fault => .error (.malformed fault)
  | .ok pieces =>
    match undeclared? paths pieces with
    | some name => .error (.undeclared name)
    | none => .ok ⟨template, pieces, paths⟩

/-- A value in a message: a text as it stands, an absent value as null. -/
def renderValue : Option Document → List Char
  | some (.text s) => s.toList
  | some d => d.chars
  | none => Document.null.chars

/-- A piece of the message for a record. -/
def renderPiece (paths : Dictionary String) (record : Document) : Piece → List Char
  | .plain content => content
  | .variable name => renderValue ((paths.get? (.ofList name)).bind record.resolve)

/-- The message for a record. -/
def render (a : Alert) (record : Document) : String :=
  .ofList (a.pieces.flatMap (renderPiece a.paths record))

end Alert

example : Template.read "a\x7b\x7b\x7bv\x7d" = .ok [.plain ['a', '{'], .variable ['v']] := by rfl
example : Template.read "\x7b\x7d" = .error .emptyPlaceholder := by rfl

end SurveyDispatch
