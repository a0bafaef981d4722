import SurveyDispatch.Document.Basic

/-!
# Tables that grow

A table grows while a file is read.  A value is set at a dotted key, and a header opens a table or
adds one to a list of tables.  On the way to either, tables that are missing are made.

What may be added to a table depends on how it came about.

* A header *states* a table.  It cannot be stated again, and no dotted key may lead through it or
  set a value in it.
* A table on the way to a header is *implied*.  A header may state it later, and then it moves to
  the end of its table.  A dotted key may lead through it, but may not set a value in it.
* A table on the way of a dotted key is *dotted*.  Other dotted keys may set values in it, and
  headers may lead through it, but no header may state it.

Values cannot be added to at all, which holds also for lists and tables in braces.
-/

namespace SurveyDispatch.Toml

/-- How a table came about. -/
inductive Origin where
  /-- By a header of its own. -/
  | stated
  /-- On the way to a header. -/
  | implied
  /-- On the way of a dotted key. -/
  | dotted
  deriving DecidableEq, Repr

/-- What a key stands for. -/
inductive Node where
  /-- A value. -/
  | value (d : Document)
  /-- A table. -/
  | table (origin : Origin) (entries : List (String × Node))
  /-- A list of tables, of which the last one grows. -/
  | tables (items : List (List (String × Node)))

/-- The entries of a table in the order of their keys. -/
abbrev Entries := List (String × Node)

/-- Puts an entry into a table, at the end if the key is new. -/
def put (key : String) (node : Node) : Entries → Entries
  | [] => [(key, node)]
  | (k, n) :: rest => if k = key then (k, node) :: rest else (k, n) :: put key node rest

/-! ## Following keys -/

/-- Changes a table by a function that is told how the table came about. -/
abbrev Change := Origin → Entries → Option Entries

/-- Changes the table that a key stands for.  Of a list of tables this is the last one.  The
argument is true for a dotted key. -/
def Node.change? (dotted : Bool) (f : Change) : Option Node → Option Node
  | none =>
    let origin := if dotted then Origin.dotted else .implied
    (f origin []).map (.table origin)
  | some (.value _) => none
  | some (.table origin entries) =>
    if dotted ∧ origin = .stated then none else (f origin entries).map (.table origin)
  | some (.tables items) =>
    match items.getLast? with
    | some entries => (f .stated entries).map fun entries => .tables (items.dropLast ++ [entries])
    | none => none

/-- Changes the table that keys lead to. -/
def changeAt? (dotted : Bool) (f : Change) : List String → Change
  | [], origin, entries => f origin entries
  | key :: rest, _, entries => do
    let node ← Node.change? dotted (changeAt? dotted f rest) (entries.lookup key)
    return put key node entries

/-- Adds a value under a key that is new.  Behind a dotted key the table has to be dotted. -/
def addValue (behindDots : Bool) (key : String) (d : Document) : Change := fun origin entries =>
  if behindDots ∧ origin ≠ .dotted ∨ (entries.lookup key).isSome then none
  else some (entries ++ [(key, .value d)])

/-- Sets a value at a dotted key. -/
def setValue? (entries : Entries) (keys : List String) (d : Document) : Option Entries := do
  let key ← keys.getLast?
  let above := keys.dropLast
  changeAt? true (addValue (!above.isEmpty) key d) above .stated entries

/-! ## Headers -/

/-- States a table under a key, with the entries that the rest of its section gives it. -/
def stateTable (key : String) (fill : Entries → Option Entries) : Change := fun _ entries => do
  let before ← match entries.lookup key with
    | none => some []
    | some (.table .implied entries) => some entries
    | some _ => none
  return (entries.filter fun e => e.1 != key) ++ [(key, .table .stated (← fill before))]

/-- Adds a table to the list under a key, with the entries that its section gives it. -/
def addTable (key : String) (fill : Entries → Option Entries) : Change := fun _ entries => do
  let before ← match entries.lookup key with
    | none => some []
    | some (.tables items) => some items
    | some _ => none
  return put key (.tables (before ++ [← fill []])) entries

/-- Opens the table of a header, or adds one to the list of tables that the header names. -/
def openTable? (isList : Bool) (entries : Entries) (keys : List String)
    (fill : Entries → Option Entries) : Option Entries := do
  let key ← keys.getLast?
  let change := if isList then addTable key fill else stateTable key fill
  changeAt? false change keys.dropLast .stated entries

/-! ## Documents -/

mutual

/-- What a key stands for, as a document. -/
def Node.toDocument : Node → Document
  | .value d => d
  | .table _ entries => .record (fieldsOf entries)
  | .tables items => .list (recordsOf items)

/-- The entries of a table as fields. -/
def fieldsOf : List (String × Node) → List (String × Document)
  | [] => []
  | (key, node) :: rest => (key, node.toDocument) :: fieldsOf rest

/-- Tables as records. -/
def recordsOf : List (List (String × Node)) → List Document
  | [] => []
  | entries :: rest => .record (fieldsOf entries) :: recordsOf rest

end

/-- The record of keys and values in braces. -/
def recordOfPairs? (pairs : List (List String × Document)) : Option Document := do
  let entries ← pairs.foldlM (fun entries p => setValue? entries p.1 p.2) []
  return .record (fieldsOf entries)

end SurveyDispatch.Toml
