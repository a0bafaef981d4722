import SurveyDispatch.Pattern.Extent
import SurveyDispatch.Text.Digits
import SurveyDispatch.Text.Hexadecimal

/-!
# Reading patterns

Patterns are written in the usual notation: characters and escapes, the dot, classes in brackets,
`^`, `$`, groups in parentheses that capture unless they start with `?:`, `|` for choices, and the
repetitions `*`, `+`, `?` and `{n,m}`, which are lazy with a question mark behind them.

A text is first cut into tokens.  The tokens are then put together with a stack of the groups that
are open.  Both steps give up at the first fault.  What is put together has a depth: the number of
classes, groups, repetitions, sequences and choices that lie inside each other.  A pattern that is
too deep or too large is refused.
-/

namespace SurveyDispatch.Pattern

/-! ## Tokens -/

/-- A pattern and how deep its notation is. -/
structure Part where
  /-- The pattern. -/
  pattern : Pattern
  /-- The depth. -/
  depth : Nat

/-- A part of the notation. -/
inductive Token where
  /-- A pattern without parts. -/
  | single (part : Part)
  /-- A repetition of what stands before it. -/
  | count (c : Count)
  /-- The bar between two choices. -/
  | bar
  /-- The start of a group. -/
  | opening (captures : Bool)
  /-- The end of a group. -/
  | closing

/-- The token of a pattern that counts for no depth. -/
def Token.flat (p : Pattern) : Token := single ⟨p, 0⟩

/-- The set that a letter behind a backslash stands for. -/
def setOfLetter? : Char → Option CharSet
  | 'd' => some .digit
  | 'D' => some CharSet.digit.complement
  | 'w' => some .word
  | 'W' => some CharSet.word.complement
  | 's' => some .blank
  | 'S' => some CharSet.blank.complement
  | _ => none

/-- The control character that a letter behind a backslash stands for. -/
def controlOfLetter? : Char → Option Char
  | 'a' => some '\x07'
  | 'f' => some '\x0c'
  | 'n' => some '\n'
  | 'r' => some '\r'
  | 't' => some '\t'
  | 'v' => some '\x0b'
  | _ => none

/-- The numbered character behind a backslash and its letter: digits in braces, or as many as the
letter asks for. -/
def readNumbered? (size : Nat) : List Char → Option (Char × List Char)
  | '{' :: rest =>
    match rest.dropWhile (· != '}') with
    | _ :: after => do return (← Hexadecimal.char? (rest.takeWhile (· != '}')), after)
    | [] => none
  | rest => Hexadecimal.readChar? size rest

/-- Whether a character behind a backslash stands for itself. -/
def isEscapable (c : Char) : Bool := c.toNat < 0x80 && !c.isAlphanum && c != '<' && c != '>'

/-- A set of characters behind a backslash. -/
def readEscape? : List Char → Option (CharSet × List Char)
  | [] => none
  | c :: rest =>
    match setOfLetter? c, controlOfLetter? c with
    | some set, _ => some (set, rest)
    | none, some control => some (.single control, rest)
    | none, none =>
      if c = 'x' then do let (x, rest) ← readNumbered? 2 rest; return (.single x, rest)
      else if c = 'u' then do let (x, rest) ← readNumbered? 4 rest; return (.single x, rest)
      else if c = 'U' then do let (x, rest) ← readNumbered? 8 rest; return (.single x, rest)
      else if isEscapable c then some (.single c, rest)
      else none

/-- A member of a class: a character or a set behind a backslash. -/
def readMember? : List Char → Option (CharSet × List Char)
  | [] => none
  | '\\' :: rest => readEscape? rest
  | c :: rest => some (.single c, rest)

/-- The range between two members, which have to be single characters in order. -/
def rangeOf? (low high : CharSet) : Option CharSet :=
  match low.only?, high.only? with
  | some low, some high => if low ≤ high then some ⟨[(low, high)]⟩ else none
  | _, _ => none

/-- The members of a class up to its closing bracket. -/
def readMembers? : Nat → List Char → Option (List CharSet × List Char)
  | _, ']' :: rest => some ([], rest)
  | _, '[' :: _ => none
  | _, '&' :: '&' :: _ => none
  | _, '~' :: '~' :: _ => none
  | _, '-' :: '-' :: _ => none
  | 0, _ => none
  | fuel + 1, text => do
    let (low, rest) ← readMember? text
    match rest with
    | '-' :: after =>
      if after.head? = some ']' ∨ after.head? = some '-' then do
        let (sets, rest) ← readMembers? fuel rest
        return (low :: sets, rest)
      else do
        let (high, rest) ← readMember? after
        let range ← rangeOf? low high
        let (sets, rest) ← readMembers? fuel rest
        return (range :: sets, rest)
    | _ => do
      let (sets, rest) ← readMembers? fuel rest
      return (low :: sets, rest)

/-- The members of a class, where dashes and then a closing bracket at the start stand for
themselves. -/
def readClassBody? (text : List Char) : Option (List CharSet × List Char) := do
  let dashes := text.takeWhile (· == '-')
  let text := text.dropWhile (· == '-')
  let (front, text) := match dashes, text with
    | [], ']' :: rest => ([CharSet.single ']'], rest)
    | dashes, text => (dashes.map CharSet.single, text)
  let (sets, rest) ← readMembers? (text.length + 1) text
  return (front ++ sets, rest)

/-- The class of members.  Several members are one level deeper than one. -/
def classOf (sets : List CharSet) (close : CharSet → CharSet) : Part :=
  ⟨.char (close (.unions sets)), if sets.length ≤ 1 then 1 else 2⟩

/-- A class after its opening bracket. -/
def readClass? : List Char → Option (Part × List Char)
  | '^' :: rest => do
    let (sets, rest) ← readClassBody? rest
    return (classOf sets CharSet.complement, rest)
  | text => do
    let (sets, rest) ← readClassBody? text
    return (classOf sets id, rest)

/-- A number of rounds, below 2^32, with blanks around it. -/
def readRounds? (digits : List Char) : Option Nat := do
  let n ← Digits.value? (Text.trim digits)
  if n < 0x100000000 then some n else none

/-- The bounds of a repetition inside its braces. -/
def readBounds? (inside : List Char) : Option (Nat × Option Nat) :=
  match inside.splitOn ',' with
  | [n] => do
    let n ← readRounds? n
    return (n, some n)
  | [least, most] => do
    let least ← readRounds? least
    if most.isEmpty then return (least, none)
    else do
      let most ← readRounds? most
      if least ≤ most then return (least, some most) else none
  | _ => none

/-- A repetition with the question mark that makes it lazy. -/
def readLaziness (least : Nat) (most : Option Nat) : List Char → Token × List Char
  | '?' :: rest => (.count ⟨least, most, false⟩, rest)
  | rest => (.count ⟨least, most, true⟩, rest)

/-- The token at the front of a text, by its first character. -/
def readToken? (c : Char) (rest : List Char) : Option (Token × List Char) :=
  match c with
  | '*' => some (readLaziness 0 none rest)
  | '+' => some (readLaziness 1 none rest)
  | '?' => some (readLaziness 0 (some 1) rest)
  | '{' =>
    match rest.dropWhile (· != '}') with
    | _ :: after => do
      let (least, most) ← readBounds? (rest.takeWhile (· != '}'))
      return readLaziness least most after
    | [] => none
  | '|' => some (.bar, rest)
  | ')' => some (.closing, rest)
  | '(' =>
    match rest with
    | '?' :: ':' :: rest => some (.opening false, rest)
    | '?' :: _ => none
    | rest => some (.opening true, rest)
  | '[' => do
    let (part, rest) ← readClass? rest
    return (.single part, rest)
  | '.' => some (.flat (.char .any), rest)
  | '^' => some (.flat .start, rest)
  | '$' => some (.flat .finish, rest)
  | '\\' =>
    match rest with
    | 'A' :: rest => some (.flat .start, rest)
    | 'z' :: rest => some (.flat .finish, rest)
    | rest => do
      let (set, rest) ← readEscape? rest
      return (.flat (.char set), rest)
  | c => some (.flat (.char (.single c)), rest)

/-- The tokens of a text.  Every token takes at least one character. -/
def readTokens? : Nat → List Char → Option (List Token)
  | _, [] => some []
  | 0, _ => none
  | fuel + 1, c :: rest => do
    let (token, rest) ← readToken? c rest
    return token :: (← readTokens? fuel rest)

/-! ## Groups -/

/-- Puts parts together.  Two or more of them are one level deeper than the deepest. -/
def Part.join (combine : List Pattern → Pattern) (parts : List Part) : Part :=
  let deepest := (parts.map Part.depth).foldl max 0
  ⟨combine (parts.map Part.pattern), if parts.length ≤ 1 then deepest else deepest + 1⟩

/-- A group that is open. -/
structure OpenGroup where
  /-- Its index, if it captures. -/
  index : Option Nat
  /-- The choices before the last bar, the latest first. -/
  choices : List Part
  /-- The parts since the last bar, the latest first. -/
  parts : List Part

namespace OpenGroup

/-- A group without parts. -/
def start (index : Option Nat) : OpenGroup := ⟨index, [], []⟩

/-- Adds a part. -/
def push (g : OpenGroup) (p : Part) : OpenGroup := { g with parts := p :: g.parts }

/-- The choice since the last bar. -/
def latest (g : OpenGroup) : Part := Part.join sequence g.parts.reverse

/-- Starts another choice. -/
def bar (g : OpenGroup) : OpenGroup := ⟨g.index, g.latest :: g.choices, []⟩

/-- What stands inside a group. -/
def body (g : OpenGroup) : Part := Part.join choice (g.latest :: g.choices).reverse

/-- The group as a part. -/
def close (g : OpenGroup) : Part :=
  let body := g.body
  match g.index with
  | some index => ⟨.group index body.pattern, body.depth + 1⟩
  | none => ⟨body.pattern, body.depth + 1⟩

end OpenGroup

/-- Puts tokens together.  The first group is the innermost open one, and `groups` counts the
captures so far. -/
def assemble? (groups : Nat) (innermost : OpenGroup) (outer : List OpenGroup) :
    List Token → Option Part
  | [] => if outer.isEmpty then some innermost.body else none
  | .single p :: rest => assemble? groups (innermost.push p) outer rest
  | .bar :: rest => assemble? groups innermost.bar outer rest
  | .opening true :: rest =>
    assemble? (groups + 1) (.start (some (groups + 1))) (innermost :: outer) rest
  | .opening false :: rest => assemble? groups (.start none) (innermost :: outer) rest
  | .closing :: rest =>
    match outer with
    | [] => none
    | next :: outer => assemble? groups (next.push innermost.close) outer rest
  | .count c :: rest =>
    match innermost.parts with
    | [] => none
    | p :: parts =>
      let round : Part := ⟨repetition c p.pattern, p.depth + 1⟩
      assemble? groups { innermost with parts := round :: parts } outer rest

/-- The greatest depth of a pattern. -/
def depthLimit : Nat := 250

/-- The pattern that a text writes down. -/
def read? (text : String) : Option Pattern := do
  let tokens ← readTokens? text.length text.toList
  let part ← assemble? 0 (.start none) [] tokens
  if part.depth ≤ depthLimit && part.pattern.fits then some part.pattern else none

end SurveyDispatch.Pattern
