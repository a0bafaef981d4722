import SurveyDispatch.Location.Address
import SurveyDispatch.Location.Coordinates

/-!
# Coordinate tables

A coordinate table answers for addresses by their keys.  A fallback point, where there is one,
answers for every address that is not in the table.
-/

namespace SurveyDispatch

/-- A table of points by address key. -/
structure CoordinateTable where
  /-- The points. -/
  points : Dictionary Coordinates
  /-- The point of every other address. -/
  fallback : Option Coordinates

namespace CoordinateTable

/-- No address has a point. -/
def empty : CoordinateTable := ⟨.empty, none⟩

/-- The table of points, of which the last one of a key counts. -/
def ofList (points : List (String × Coordinates)) : CoordinateTable := ⟨.ofList points, none⟩

/-- Every address has the same point. -/
def fixed (point : Coordinates) : CoordinateTable := ⟨.empty, some point⟩

/-- The point of an address. -/
def lookup (t : CoordinateTable) (a : Address) : Option Coordinates :=
  (t.points.get? a.key).or t.fallback

end CoordinateTable

end SurveyDispatch
