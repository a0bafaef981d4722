/-!
# The ends of a text

Taking characters off the ends of a text, and the part behind the last occurrence of a character.
-/

namespace SurveyDispatch.Text

/-- The characters without those of a kind at the end. -/
def dropEndWhile (p : Char → Bool) (cs : List Char) : List Char := (cs.reverse.dropWhile p).reverse

/-- The longest end of a text that is free of a character. -/
def afterLast (c : Char) (cs : List Char) : List Char :=
  (cs.reverse.takeWhile (· != c)).reverse

/-- The text without the given character at its end. -/
def trimEnd (c : Char) (s : String) : String := .ofList (dropEndWhile (· == c) s.toList)

example : trimEnd '/' "a//" = "a" := by decide
example : afterLast '/' "a/b/c".toList = ['c'] := by decide

end SurveyDispatch.Text
