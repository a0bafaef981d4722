/-!
# Fronts of texts

Objects are listed by how their keys start.
-/

namespace SurveyDispatch.Text

/-- Whether a text starts with another one. -/
def startsWith (s front : String) : Bool := front.toList.isPrefixOf s.toList

/-- The rest of a text that starts with another one. -/
def afterFront? (s front : String) : Option String :=
  if startsWith s front then some (.ofList (s.toList.drop front.length)) else none

example : afterFront? "entries/1" "entries/" = some "1" := by decide

end SurveyDispatch.Text
