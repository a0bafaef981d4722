import Mathlib.Data.List.Chain
import SurveyDispatch.Rule.Alert

/-!
# Templates and their pieces

Reading a template and writing pieces are inverse to each other on pieces in normal form
(`Template.read_eq_ok_iff`).  So every template that is not the writing of such pieces is refused.

The reader holds the text since the last placeholder.  Text that it holds and pieces that it still
has to read make up pieces in normal form together, and this is what both directions carry along
(`Template.readFrom_write`, `Template.of_readFrom`).

An alert is a template whose placeholders all name variables.  Its message puts the value of each
variable in the place of the placeholder and is not read again (`Alert.Rendered`).
-/

namespace SurveyDispatch

namespace Template

/-! ## Normal form -/

/-- A name that a placeholder can have. -/
structure IsName (name : List Char) : Prop where
  /-- It is not empty. -/
  nonempty : name ≠ []
  /-- It has no opening brace. -/
  opening : '{' ∉ name
  /-- It has no closing brace. -/
  closing : '}' ∉ name

/-- Whether a piece is text. -/
def IsPlain : Piece → Prop
  | .plain _ => True
  | .variable _ => False

/-- The normal form of pieces. -/
structure Normal (pieces : List Piece) : Prop where
  /-- No text is empty. -/
  nonempty : .plain [] ∉ pieces
  /-- No two texts are adjacent. -/
  apart : pieces.IsChain fun p q => ¬ (IsPlain p ∧ IsPlain q)
  /-- Every name can be that of a placeholder. -/
  named : ∀ name, .variable name ∈ pieces → IsName name

variable {text name content rest : List Char} {pieces : List Piece}

theorem normal_nil : Normal [] := ⟨by simp, .nil, by simp⟩

theorem normal_variable_iff :
    Normal (.variable name :: pieces) ↔ IsName name ∧ Normal pieces := by
  constructor
  · intro h
    refine ⟨h.named name List.mem_cons_self, ?_, h.apart.tail, ?_⟩
    · exact fun mem => h.nonempty (List.mem_cons_of_mem _ mem)
    · exact fun other mem => h.named other (List.mem_cons_of_mem _ mem)
  · rintro ⟨isName, h⟩
    refine ⟨by simpa using h.nonempty, List.isChain_cons.mpr ⟨?_, h.apart⟩, ?_⟩
    · exact fun q _ both => both.1
    · intro other mem
      rcases List.mem_cons.mp mem with eq | mem
      · cases eq
        exact isName
      · exact h.named other mem

/-- Plain text is not empty, and no other plain text follows it. -/
theorem normal_plain_iff :
    Normal (.plain content :: pieces) ↔
      content ≠ [] ∧ (∀ other more, pieces ≠ .plain other :: more) ∧ Normal pieces := by
  constructor
  · intro h
    refine ⟨?_, ?_, ?_, h.apart.tail, ?_⟩
    · rintro rfl
      exact h.nonempty List.mem_cons_self
    · rintro other more rfl
      exact (List.isChain_cons_cons.mp h.apart).1 ⟨trivial, trivial⟩
    · exact fun mem => h.nonempty (List.mem_cons_of_mem _ mem)
    · exact fun other mem => h.named other (List.mem_cons_of_mem _ mem)
  · rintro ⟨nonempty, apart, h⟩
    refine ⟨?_, List.isChain_cons.mpr ⟨?_, h.apart⟩, ?_⟩
    · intro mem
      rcases List.mem_cons.mp mem with eq | mem
      · cases eq
        exact nonempty rfl
      · exact h.nonempty mem
    · intro q head both
      obtain ⟨more, eq⟩ := List.head?_eq_some_iff.mp head
      cases q with
      | plain other => exact apart other more eq
      | «variable» name => exact both.2
    · exact fun other mem => h.named other (by simpa using mem)

theorem consPlain_nil : consPlain [] pieces = pieces := rfl

theorem consPlain_of_ne_nil (h : text ≠ []) : consPlain text pieces = .plain text :: pieces := by
  rw [consPlain, if_neg (by simpa using h)]

/-- Text in front of a placeholder. -/
theorem normal_consPlain_variable_iff :
    Normal (consPlain text (.variable name :: pieces)) ↔ IsName name ∧ Normal pieces := by
  by_cases h : text = []
  · rw [h, consPlain_nil, normal_variable_iff]
  · rw [consPlain_of_ne_nil h, normal_plain_iff, normal_variable_iff]
    exact ⟨fun ⟨_, _, both⟩ => both, fun both => ⟨h, by simp, both⟩⟩

/-- Text on its own. -/
theorem normal_consPlain_nil : Normal (consPlain text []) := by
  by_cases h : text = []
  · rw [h, consPlain_nil]
    exact normal_nil
  · rw [consPlain_of_ne_nil h]
    exact normal_plain_iff.mpr ⟨h, by simp, normal_nil⟩

theorem write_consPlain :
    write (consPlain text pieces) = text.flatMap writeChar ++ write pieces := by
  by_cases h : text = []
  · rw [h]
    rfl
  · rw [consPlain_of_ne_nil h]
    rfl

/-! ## Reading what was written -/

theorem writeChar_of_ne {c : Char} (opening : c ≠ '{') (closing : c ≠ '}') :
    writeChar c = [c] := by
  rw [writeChar, if_neg (by simp [opening, closing])]

/-- A written character is read back onto the text that is held. -/
theorem readFrom_writeChar (c : Char) :
    readFrom none text (writeChar c ++ rest) = readFrom none (text ++ [c]) rest := by
  by_cases opening : c = '{'
  · subst opening
    rfl
  · by_cases closing : c = '}'
    · subst closing
      rfl
    · rw [writeChar_of_ne opening closing, List.singleton_append, readFrom, if_neg opening,
        if_neg closing]
      · exact fun _ h _ => opening h
      · exact fun _ h _ => closing h

/-- Text in writing is read as itself. -/
theorem readFrom_flatMap_writeChar :
    readFrom none text (content.flatMap writeChar ++ rest) =
      readFrom none (text ++ content) rest := by
  induction content generalizing text with
  | nil => rw [List.append_nil]; rfl
  | cons c content ih =>
    rw [List.flatMap_cons, List.append_assoc, readFrom_writeChar, ih, List.append_assoc]
    rfl

/-- A name is read up to its closing brace. -/
theorem readFrom_name {front : List Char} (opening : '{' ∉ name) (closing : '}' ∉ name) :
    readFrom (some front) text (name ++ rest) = readFrom (some (front ++ name)) text rest := by
  induction name generalizing front with
  | nil => rw [List.append_nil]; rfl
  | cons c name ih =>
    obtain ⟨opens, opening⟩ := List.ne_and_not_mem_of_not_mem_cons opening
    obtain ⟨closes, closing⟩ := List.ne_and_not_mem_of_not_mem_cons closing
    rw [List.cons_append, readFrom, if_neg (Ne.symm closes), if_neg (Ne.symm opens),
      ih opening closing, List.append_assoc]
    rfl

/-- A single opening brace starts a placeholder. -/
theorem readFrom_opening {c : Char} (h : c ≠ '{') :
    readFrom none text ('{' :: c :: rest) = readFrom (some []) text (c :: rest) := by
  conv_lhs => rw [readFrom.eq_def]
  simp [h]

/-- A placeholder ends the text in front of it. -/
theorem readFrom_placeholder (h : IsName name) :
    readFrom none text ('{' :: name ++ '}' :: rest) =
      (readFrom none [] rest).map fun pieces => consPlain text (.variable name :: pieces) := by
  have enter : readFrom none text ('{' :: name ++ '}' :: rest) =
      readFrom (some []) text (name ++ '}' :: rest) := by
    cases name with
    | nil => exact absurd rfl h.nonempty
    | cons c name =>
      exact readFrom_opening (List.ne_and_not_mem_of_not_mem_cons h.opening).1.symm
  rw [enter, readFrom_name h.opening h.closing, List.nil_append, readFrom, if_pos rfl,
    if_neg (by simpa using h.nonempty)]
  cases readFrom none [] rest with
  | error fault => rfl
  | ok pieces => rfl

/-- Pieces in normal form are read back, where the reader may hold the first text already. -/
theorem readFrom_write (h : Normal (consPlain text pieces)) :
    readFrom none text (write pieces) = .ok (consPlain text pieces) := by
  induction pieces generalizing text with
  | nil => rfl
  | cons piece pieces ih =>
    cases piece with
    | plain content =>
      by_cases held : text = []
      · subst held
        have nonempty := (normal_plain_iff.mp h).1
        have joined : consPlain [] (.plain content :: pieces) = consPlain content pieces :=
          (consPlain_of_ne_nil nonempty).symm
        rw [joined] at h ⊢
        exact readFrom_flatMap_writeChar.trans (ih h)
      · rw [consPlain_of_ne_nil held, normal_plain_iff] at h
        exact absurd rfl (h.2.1 content pieces)
    | «variable» name =>
      obtain ⟨isName, below⟩ := normal_consPlain_variable_iff.mp h
      have split : write (.variable name :: pieces) = '{' :: name ++ '}' :: write pieces :=
        List.append_assoc ('{' :: name) ['}'] (write pieces)
      have behind : readFrom none [] (write pieces) = .ok pieces := ih below
      rw [split, readFrom_placeholder isName, behind]
      rfl

/-! ## Writing what was read -/

theorem flatMap_writeChar_concat (c : Char) :
    (text ++ [c]).flatMap writeChar ++ rest = text.flatMap writeChar ++ (writeChar c ++ rest) := by
  rw [List.flatMap_append, List.append_assoc, List.flatMap_singleton]

/-- What is read is in normal form, and in writing it is the text that was held and what was read
since. -/
theorem of_readFrom {state : Option (List Char)} {cs : List Char}
    (h : readFrom state text cs = .ok pieces)
    (names : ∀ name ∈ state, '{' ∉ name ∧ '}' ∉ name) :
    Normal pieces ∧ write pieces = text.flatMap writeChar ++
      (match state with
        | none => cs
        | some name => '{' :: name ++ cs) := by
  induction state, text, cs using readFrom.induct generalizing pieces with
  | case1 text =>
    cases h
    exact ⟨normal_consPlain_nil, write_consPlain⟩
  | case2 => cases h
  | case3 name text rest empty =>
    rw [readFrom, if_pos rfl, if_pos empty] at h
    cases h
  | case4 name text rest nonempty ih =>
    rw [readFrom, if_pos rfl, if_neg nonempty] at h
    cases below : readFrom none [] rest with
    | error fault =>
      rw [below] at h
      cases h
    | ok behind =>
      rw [below] at h
      cases h
      obtain ⟨normal, written⟩ := ih below (by simp)
      obtain ⟨opening, closing⟩ := names name rfl
      refine ⟨normal_consPlain_variable_iff.mpr ⟨⟨by simpa using nonempty, opening, closing⟩,
        normal⟩, ?_⟩
      rw [write_consPlain]
      refine congrArg (text.flatMap writeChar ++ ·) ?_
      have split : write (.variable name :: behind) = '{' :: name ++ '}' :: write behind :=
        List.append_assoc ('{' :: name) ['}'] (write behind)
      rw [split, written]
      rfl
  | case5 name text rest closes =>
    rw [readFrom, if_neg closes, if_pos rfl] at h
    cases h
  | case6 name text c rest closes opens ih =>
    rw [readFrom, if_neg closes, if_neg opens] at h
    obtain ⟨opening, closing⟩ := names name rfl
    obtain ⟨normal, written⟩ := ih h (by simp [opening, closing, Ne.symm opens, Ne.symm closes])
    refine ⟨normal, written.trans ?_⟩
    simp only [List.append_assoc, List.cons_append, List.nil_append]
  | case7 text rest ih | case8 text rest ih =>
    -- A doubled brace is held as one.
    rw [readFrom] at h
    obtain ⟨normal, written⟩ := ih h (by simp)
    rw [flatMap_writeChar_concat] at written
    exact ⟨normal, written⟩
  | case9 text rest single single' ih =>
    rw [readFrom, if_pos rfl] at h
    · exact ih h (by simp)
    · exact single
    · exact single'
  | case10 text rest single single' ne =>
    rw [readFrom, if_neg ne, if_pos rfl] at h
    · cases h
    · exact single
    · exact single'
  | case11 text c rest single single' opens closes ih =>
    rw [readFrom, if_neg opens, if_neg closes] at h
    · obtain ⟨normal, written⟩ := ih h (by simp)
      rw [flatMap_writeChar_concat, writeChar_of_ne opens closes] at written
      exact ⟨normal, written⟩
    · exact single
    · exact single'

/-- Templates and pieces in normal form are two forms of one thing. -/
theorem read_eq_ok_iff {template : String} :
    read template = .ok pieces ↔ Normal pieces ∧ template.toList = write pieces := by
  constructor
  · intro h
    obtain ⟨normal, written⟩ := of_readFrom h (by simp)
    exact ⟨normal, written.symm⟩
  · rintro ⟨normal, written⟩
    have reads : readFrom none [] (write pieces) = .ok pieces := readFrom_write normal
    rw [read, written, reads]

end Template

namespace Alert

open Template (Normal)

variable {paths : Dictionary String} {record : Document} {pieces : List Piece}

/-! ## Placeholders without a variable -/

/-- Every placeholder names a variable. -/
def Declared (paths : Dictionary String) (pieces : List Piece) : Prop :=
  ∀ name, .variable name ∈ pieces → paths.contains (.ofList name) = true

theorem declared_nil : Declared paths [] := fun _ mem => absurd mem List.not_mem_nil

theorem declared_plain_iff {content : List Char} :
    Declared paths (.plain content :: pieces) ↔ Declared paths pieces := by
  simp [Declared]

theorem declared_variable_iff {name : List Char} :
    Declared paths (.variable name :: pieces) ↔
      paths.contains (.ofList name) = true ∧ Declared paths pieces := by
  simp [Declared]

/-- No name is undeclared exactly if all of them are declared. -/
theorem undeclared?_eq_none_iff : undeclared? paths pieces = none ↔ Declared paths pieces := by
  induction pieces with
  | nil => exact ⟨fun _ => declared_nil, fun _ => rfl⟩
  | cons piece pieces ih =>
    cases piece with
    | plain content => rw [undeclared?, ih, declared_plain_iff]
    | «variable» name =>
      rw [undeclared?, declared_variable_iff, ← ih]
      split
      next known => simp only [known, true_and]
      next unknown => simp only [unknown, reduceCtorEq, Bool.false_eq_true, false_and]

theorem undeclared?_append {front rest : List Piece} (h : Declared paths front) :
    undeclared? paths (front ++ rest) = undeclared? paths rest := by
  induction front with
  | nil => rfl
  | cons piece front ih =>
    cases piece with
    | plain content => rw [List.cons_append, undeclared?, ih (declared_plain_iff.mp h)]
    | «variable» name =>
      obtain ⟨known, h⟩ := declared_variable_iff.mp h
      rw [List.cons_append, undeclared?, if_pos known, ih h]

/-- The name that is reported is the first one without a variable. -/
theorem undeclared?_eq_some_iff {name : String} :
    undeclared? paths pieces = some name ↔
      ∃ front rest, pieces = front ++ .variable name.toList :: rest ∧ Declared paths front ∧
        paths.contains name = false := by
  constructor
  · intro h
    induction pieces with
    | nil => cases h
    | cons piece pieces ih =>
      cases piece with
      | plain content =>
        obtain ⟨front, rest, rfl, declared, unknown⟩ := ih h
        exact ⟨.plain content :: front, rest, rfl, declared_plain_iff.mpr declared, unknown⟩
      | «variable» first =>
        rw [undeclared?] at h
        split at h
        next known =>
          obtain ⟨front, rest, rfl, declared, unknown⟩ := ih h
          exact ⟨.variable first :: front, rest, rfl, declared_variable_iff.mpr ⟨known, declared⟩,
            unknown⟩
        next unknown =>
          cases h
          rw [Bool.not_eq_true] at unknown
          exact ⟨[], pieces, by rw [String.toList_ofList]; rfl, declared_nil, unknown⟩
  · rintro ⟨front, rest, rfl, declared, unknown⟩
    rw [undeclared?_append declared, undeclared?, String.ofList_toList, unknown]
    rfl

/-! ## Messages -/

/-- How a value is shown in a message. -/
inductive Shown : Option Document → List Char → Prop where
  | absent : Shown none ['n', 'u', 'l', 'l']
  | null : Shown (some .null) ['n', 'u', 'l', 'l']
  | text (s : String) : Shown (some (.text s)) s.toList
  | other {d : Document} : d.isNull = false → d.asText? = none → Shown (some d) d.chars

/-- The message of pieces: texts as they stand, and values in the places of their names. -/
inductive Rendered (paths : Dictionary String) (record : Document) :
    List Piece → List Char → Prop where
  | nil : Rendered paths record [] []
  | plain {content message : List Char} {pieces : List Piece} :
      Rendered paths record pieces message →
      Rendered paths record (.plain content :: pieces) (content ++ message)
  | value {name shown message : List Char} {path : String} {pieces : List Piece} :
      paths.get? (.ofList name) = some path → Shown (record.resolve path) shown →
      Rendered paths record pieces message →
      Rendered paths record (.variable name :: pieces) (shown ++ message)

theorem shown_renderValue (value : Option Document) : Shown value (renderValue value) := by
  cases value with
  | none => exact .absent
  | some d =>
    cases d with
    | null => exact .null
    | text s => exact .text s
    | bool b => exact .other rfl rfl
    | number n => exact .other rfl rfl
    | list items => exact .other rfl rfl
    | record fields => exact .other rfl rfl

/-- A value is shown in one way only. -/
theorem Shown.unique {value : Option Document} {shown : List Char} (h : Shown value shown) :
    shown = renderValue value := by
  cases h with
  | absent => rfl
  | null => rfl
  | text s => rfl
  | @other d notNull notText =>
    cases d with
    | null => cases notNull
    | text s => cases notText
    | bool b => rfl
    | number n => rfl
    | list items => rfl
    | record fields => rfl

/-- Pieces whose names are all variables have one message. -/
theorem rendered_iff (declared : Declared paths pieces) {message : List Char} :
    Rendered paths record pieces message ↔
      pieces.flatMap (renderPiece paths record) = message := by
  induction pieces generalizing message with
  | nil =>
    constructor
    · rintro ⟨⟩
      rfl
    · rintro rfl
      exact .nil
  | cons piece pieces ih =>
    rw [List.flatMap_cons]
    cases piece with
    | plain content =>
      have below := @ih (declared_plain_iff.mp declared)
      constructor
      · rintro (_ | rest | _)
        rw [below.mp rest]
        rfl
      · rintro rfl
        exact .plain (below.mpr rfl)
    | «variable» name =>
      obtain ⟨known, declared⟩ := declared_variable_iff.mp declared
      obtain ⟨path, found⟩ := Option.isSome_iff_exists.mp known
      have piece : renderPiece paths record (.variable name) =
          renderValue (record.resolve path) := by
        rw [renderPiece, found, Option.bind_some]
      rw [piece]
      constructor
      · rintro (_ | _ | ⟨found', shown, rest⟩)
        cases found.symm.trans found'
        rw [shown.unique, (ih declared).mp rest]
      · rintro rfl
        exact .value found (shown_renderValue _) ((ih declared).mpr rfl)

/-! ## Alerts -/

variable {template : String}

theorem ofTemplate_eq_malformed_iff {fault : TemplateFault} :
    ofTemplate template paths = .error (.malformed fault) ↔
      Template.read template = .error fault := by
  cases read : Template.read template with
  | error other => simp [ofTemplate, read]
  | ok pieces =>
    cases missing : undeclared? paths pieces with
    | none => simp [ofTemplate, read, missing]
    | some name => simp [ofTemplate, read, missing]

theorem ofTemplate_eq_undeclared_iff {name : String} :
    ofTemplate template paths = .error (.undeclared name) ↔
      ∃ pieces, Template.read template = .ok pieces ∧ undeclared? paths pieces = some name := by
  cases read : Template.read template with
  | error fault => simp [ofTemplate, read]
  | ok pieces =>
    cases missing : undeclared? paths pieces with
    | none => simp [ofTemplate, read, missing]
    | some other => simp [ofTemplate, read, missing]

/-- A template is accepted exactly if it can be read and declares all of its names. -/
theorem ofTemplate_eq_ok_iff {a : Alert} :
    ofTemplate template paths = .ok a ↔
      ∃ pieces, Template.read template = .ok pieces ∧ Declared paths pieces ∧
        a = ⟨template, pieces, paths⟩ := by
  cases read : Template.read template with
  | error fault => simp [ofTemplate, read]
  | ok pieces =>
    cases missing : undeclared? paths pieces with
    | none => simp [ofTemplate, read, ← undeclared?_eq_none_iff, missing, eq_comm]
    | some other => simp [ofTemplate, read, ← undeclared?_eq_none_iff, missing]

/-- The message of an alert that was made from a template. -/
theorem render_eq_iff {a : Alert} (h : ofTemplate template paths = .ok a) {message : String} :
    a.render record = message ↔ Rendered paths record a.pieces message.toList := by
  obtain ⟨pieces, -, declared, rfl⟩ := ofTemplate_eq_ok_iff.mp h
  rw [rendered_iff declared, render, ← String.toList_inj, String.toList_ofList]

/-- What makes a template an alert, what is reported otherwise, and what the alert says about a
record. -/
theorem reads_and_renders (template : String) (paths : Dictionary String) :
    (∀ pieces, Template.read template = .ok pieces ↔
        Normal pieces ∧ template.toList = Template.write pieces) ∧
      (∀ fault, ofTemplate template paths = .error (.malformed fault) ↔
        Template.read template = .error fault) ∧
      (∀ name, ofTemplate template paths = .error (.undeclared name) ↔
        ∃ front rest, Template.read template = .ok (front ++ .variable name.toList :: rest) ∧
          Declared paths front ∧ paths.contains name = false) ∧
      (∀ a, ofTemplate template paths = .ok a ↔
        ∃ pieces, Template.read template = .ok pieces ∧ Declared paths pieces ∧
          a = ⟨template, pieces, paths⟩) ∧
      ∀ a record message, ofTemplate template paths = .ok a →
        (a.render record = message ↔ Rendered paths record a.pieces message.toList) := by
  refine ⟨fun _ => Template.read_eq_ok_iff, fun _ => ofTemplate_eq_malformed_iff, fun name => ?_,
    fun _ => ofTemplate_eq_ok_iff, fun _ _ _ h => render_eq_iff h⟩
  rw [ofTemplate_eq_undeclared_iff]
  constructor
  · rintro ⟨pieces, read, missing⟩
    obtain ⟨front, rest, rfl, declared, unknown⟩ := undeclared?_eq_some_iff.mp missing
    exact ⟨front, rest, read, declared, unknown⟩
  · rintro ⟨front, rest, read, declared, unknown⟩
    exact ⟨_, read, undeclared?_eq_some_iff.mpr ⟨front, rest, rfl, declared, unknown⟩⟩

/-- An alert whose template has braces next to a placeholder. -/
def braced : Alert :=
  ⟨"\x7b\x7b\x7bv\x7d\x7d\x7d \x7bw\x7d",
    [.plain ['{'], .variable ['v'], .plain ['}', ' '], .variable ['w']],
    .ofList [("v", "a"), ("w", "b")]⟩

/-- A record with braces in a value. -/
def bracedRecord : Document :=
  .record [("a", .text "\x7bw\x7d\x7d"), ("b", .list [.bool true, .null])]

/-- Braces next to a placeholder belong to the text, and braces in a value stay as they are. -/
theorem reads_and_renders_braced :
    ofTemplate braced.template braced.paths = .ok braced ∧
      braced.render bracedRecord = "\x7b\x7bw\x7d\x7d\x7d [true,null]" := by
  have made : ofTemplate braced.template braced.paths = .ok braced := by rfl
  have first : Shown (bracedRecord.resolve "a") ['{', 'w', '}', '}'] := Shown.text "\x7bw\x7d\x7d"
  have second : Shown (bracedRecord.resolve "b")
      ['[', 't', 'r', 'u', 'e', ',', 'n', 'u', 'l', 'l', ']'] :=
    @Shown.other (.list [.bool true, .null]) rfl rfl
  refine ⟨made, ((reads_and_renders _ _).2.2.2.2 _ _ _ made).mpr ?_⟩
  exact .plain (.value rfl first (.plain (.value rfl second .nil)))

end Alert

end SurveyDispatch
