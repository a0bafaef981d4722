import SurveyDispatch.Text.Ranges
import SurveyDispatch.Text.Trim

/-!
# White space

The characters of the Unicode property of white space.
-/

namespace SurveyDispatch.Text

/-- The ranges of white space. -/
def blanks : List (Nat × Nat) :=
  [(0x09, 0x0D), (0x20, 0x20), (0x85, 0x85), (0xA0, 0xA0), (0x1680, 0x1680), (0x2000, 0x200A),
    (0x2028, 0x2029), (0x202F, 0x202F), (0x205F, 0x205F), (0x3000, 0x3000)]

/-- Whether a character is white space. -/
def isBlank (c : Char) : Bool := inRanges blanks c

/-- A text without white space at its ends. -/
def trim (cs : List Char) : List Char := dropEndWhile isBlank (cs.dropWhile isBlank)

end SurveyDispatch.Text
