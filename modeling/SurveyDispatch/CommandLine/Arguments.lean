/-!
# Arguments

The arguments of the program are options, the name of a command, and the options and operands of
the command.

An option is written `--name`, and its value follows as the next argument or behind an equals sign.
A value that is an argument of its own does not start with a dash, unless it is a dash alone.  An
argument `--` ends the options of a command, and all that follows are operands.  The common options
may stand on either side of the name of the command.  An option is given at most once on a side,
and the value behind the name counts.

Arguments that do not fit are not told apart here.
-/

namespace SurveyDispatch

/-- The form of what the program prints. -/
inductive OutputFormat where
  /-- Lines of text. -/
  | text
  /-- JSON documents. -/
  | json
  deriving DecidableEq, Repr

/-- The common options. -/
structure CommonOptions where
  /-- The path of the configuration. -/
  configuration : Option String := none
  /-- The form of what is printed. -/
  format : OutputFormat := .text
  /-- Whether only the essential is printed. -/
  quiet : Bool := false
  deriving DecidableEq, Repr

/-- A command. -/
inductive Command where
  /-- Lists the submissions of a store that match a query. -/
  | query (store suffix query : String)
  /-- Checks a submission against the exclusions. -/
  | screen (file : String) (trace : Bool)
  /-- Selects the topic of a submission. -/
  | route (file : String) (trace : Bool)
  /-- Prints the compiled record of a submission. -/
  | compile (file : String)
  /-- Lists the attachments of a submission. -/
  | attachments (file : String)
  /-- Lists the texts that a pattern with ranges stands for. -/
  | expand (pattern : String)
  /-- Processes the submissions of a store. -/
  | process (store suffix : String) (coordinates : Option String)
  /-- Copies the missing attachments of the submissions of a store. -/
  | sync (store suffix : String) (source : Option String) (skipDownload : Bool)
  deriving DecidableEq, Repr

/-- What the arguments ask for. -/
inductive Request where
  /-- The version of the program. -/
  | version
  /-- A command. -/
  | run (options : CommonOptions) (command : Command)
  deriving DecidableEq, Repr

namespace CommandLine

/-! ## Options and operands -/

/-- What values an option or an operand takes. -/
inductive Takes where
  /-- None, so that an option is a switch. -/
  | nothing
  /-- Any text. -/
  | anyText
  /-- A path, which is not empty. -/
  | path
  /-- The name of an output format. -/
  | format
  deriving DecidableEq, Repr

/-- The output format of a name. -/
def formatOf? : String → Option OutputFormat
  | "text" => some .text
  | "json" => some .json
  | _ => none

/-- Whether a value is allowed. -/
def Takes.admits : Takes → String → Bool
  | nothing, _ => false
  | anyText, _ => true
  | path, value => !value.isEmpty
  | format, value => (formatOf? value).isSome

/-- The options and operands that may be given. -/
structure Grammar where
  /-- The options by name. -/
  options : List (String × Takes)
  /-- The operands. -/
  operands : List Takes

/-- The options and operands that were given. -/
structure Given where
  /-- The values of options by name.  A switch has an empty one. -/
  options : List (String × String) := []
  /-- The operands. -/
  operands : List String := []
  deriving DecidableEq, Repr

namespace Given

/-- The value of an option. -/
def value? (g : Given) (name : String) : Option String := g.options.lookup name

/-- Whether an option was given. -/
def has (g : Given) (name : String) : Bool := (g.value? name).isSome

/-- Adds an option that was not given yet. -/
def addOption? (g : Given) (name value : String) : Option Given :=
  if g.has name then none else some { g with options := (name, value) :: g.options }

/-- Adds an operand that there is room for. -/
def addOperand? (grammar : Grammar) (g : Given) (value : String) : Option Given := do
  let takes ← grammar.operands[g.operands.length]?
  if takes.admits value then some { g with operands := g.operands ++ [value] } else none

end Given

/-- Whether an argument starts with a dash and is not a dash alone. -/
def startsWithDash (argument : String) : Bool :=
  argument.toList.head? == some '-' && argument != "-"

/-- The name and the attached value of an option, if an argument is one. -/
def optionOf? (argument : String) : Option (String × Option String) :=
  match argument.toList with
  | '-' :: '-' :: rest =>
    let (name, rest) := rest.span (· != '=')
    some (.ofList name, match rest with
      | [] => none
      | _ :: value => some (.ofList value))
  | _ => none

/-- Takes an option with its value off the arguments. -/
def takeOption? (grammar : Grammar) (g : Given) (argument : String) (rest : List String) :
    Option (Given × List String) := do
  let (name, attached) ← optionOf? argument
  let takes ← grammar.options.lookup name
  match takes, attached, rest with
  | .nothing, none, rest => return (← g.addOption? name "", rest)
  | .nothing, some _, _ => none
  | takes, some value, rest =>
    if takes.admits value then return (← g.addOption? name value, rest) else none
  | takes, none, value :: rest =>
    if takes.admits value && !startsWithDash value then
      return (← g.addOption? name value, rest)
    else none
  | _, none, [] => none

/-- The options and operands that arguments give to a command.  Every step takes at least one
argument. -/
def collect? (grammar : Grammar) : Nat → Given → List String → Option Given
  | _, g, [] => some g
  | 0, _, _ => none
  | fuel + 1, g, argument :: rest => do
    if argument = "--" then rest.foldlM (Given.addOperand? grammar) g
    else if startsWithDash argument then
      let (g, rest) ← takeOption? grammar g argument rest
      collect? grammar fuel g rest
    else collect? grammar fuel (← g.addOperand? grammar argument) rest

/-! ## Commands -/

/-- The common options. -/
def commonOptions : List (String × Takes) :=
  [("config", .path), ("output", .format), ("quiet", .nothing)]

/-- The options and operands of a command, given by its name. -/
def grammarOf? : String → Option Grammar
  | "query" => some ⟨[("store", .path), ("suffix", .anyText), ("query", .anyText)], []⟩
  | "screen" | "route" => some ⟨[("trace", .nothing)], [.path]⟩
  | "compile" | "attachments" => some ⟨[], [.path]⟩
  | "expand" => some ⟨[], [.anyText]⟩
  | "process" => some ⟨[("store", .path), ("suffix", .anyText), ("coordinates", .anyText)], []⟩
  | "sync" =>
    some ⟨[("store", .path), ("suffix", .anyText), ("source", .path), ("skip-download", .nothing)],
      []⟩
  | _ => none

/-- The command of a name with its options and operands. -/
def commandOf? (name : String) (g : Given) : Option Command :=
  let suffix := (g.value? "suffix").getD ""
  match name, g.operands with
  | "query", [] => do return .query (← g.value? "store") suffix (← g.value? "query")
  | "screen", [file] => some (.screen file (g.has "trace"))
  | "route", [file] => some (.route file (g.has "trace"))
  | "compile", [file] => some (.compile file)
  | "attachments", [file] => some (.attachments file)
  | "expand", [pattern] => some (.expand pattern)
  | "process", [] => do return .process (← g.value? "store") suffix (g.value? "coordinates")
  | "sync", [] => do
    return .sync (← g.value? "store") suffix (g.value? "source") (g.has "skip-download")
  | _, _ => none

/-- The common options that were given before and behind the name of a command. -/
def commonOf (before behind : Given) : CommonOptions where
  configuration := (behind.value? "config").or (before.value? "config")
  format := (((behind.value? "output").or (before.value? "output")).bind formatOf?).getD .text
  quiet := before.has "quiet" || behind.has "quiet"

/-- A command with what was given before its name. -/
def commandRequest? (before : Given) (name : String) (arguments : List String) :
    Option Request := do
  let grammar ← grammarOf? name
  let behind ← collect? { grammar with options := commonOptions ++ grammar.options }
    arguments.length {} arguments
  return .run (commonOf before behind) (← commandOf? name behind)

/-- Whether an argument asks for the version. -/
def asksForVersion (argument : String) : Bool :=
  argument == "--version" || ['-', 'V'].isPrefixOf argument.toList

/-- The request of arguments behind the options that were given already.  Every step takes at
least one argument. -/
def request? : Nat → Given → List String → Option Request
  | _, _, [] => none
  | 0, _, _ => none
  | fuel + 1, before, argument :: rest => do
    if asksForVersion argument then return .version
    else if startsWithDash argument then
      let (before, rest) ← takeOption? ⟨commonOptions, []⟩ before argument rest
      request? fuel before rest
    else commandRequest? before argument rest

end CommandLine

/-- What arguments ask for. -/
def Request.ofArguments? (arguments : List String) : Option Request :=
  CommandLine.request? arguments.length {} arguments

example : Request.ofArguments? ["--quiet", "expand", "a", "--output=json"] =
    some (.run ⟨none, .json, true⟩ (.expand "a")) := by decide +kernel
example : Request.ofArguments? ["expand", "--", "--a"] = some (.run {} (.expand "--a")) := by
  decide +kernel
example : Request.ofArguments? ["screen", ""] = none := by decide +kernel
example : Request.ofArguments? ["--quiet", "--quiet", "expand", "a"] = none := by decide +kernel
example : Request.ofArguments? ["--config", "-V"] = none := by decide +kernel

end SurveyDispatch
