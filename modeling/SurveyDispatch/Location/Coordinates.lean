import SurveyDispatch.Location.Settings
import SurveyDispatch.Text.Blank
import SurveyDispatch.Submission.Basic

/-!
# Coordinates

Coordinates are read from the answer of the address service, which lists features with attributes.
The first feature counts.  Attribute values are numbers or texts that hold one.

A located submission is published as GeoJSON: a collection of one point with the compiled record as
its properties.  GeoJSON puts the longitude first.  A coordinate that is not finite is written as
null.
-/

namespace SurveyDispatch

/-- A point on the globe, in degrees. -/
structure Coordinates where
  /-- Degrees north. -/
  latitude : Real64
  /-- Degrees east. -/
  longitude : Real64
  deriving DecidableEq

namespace Coordinates

/-- The number that an attribute value holds. -/
def ofAttribute? : Document → Option Real64
  | .number n => n.nearest?.map .finite
  | .text s => (Real64.read (Text.trim s.toList)).toOption
  | _ => none

/-- The attributes of the first feature of an answer. -/
def firstFeature? (response : Document) : Option Document := do
  match ← response.field? "features" with
  | .list (feature :: _) => feature.field? "attributes"
  | _ => none

/-- The coordinates that an answer of the address service gives.  The settings name the two
attributes, first the latitude. -/
def ofResponse? (s : LocationSettings) (response : Document) : Option Coordinates := do
  let attributes ← firstFeature? response
  match s.outFields with
  | latitude :: longitude :: _ =>
    return ⟨← ofAttribute? (← attributes.field? latitude),
      ← ofAttribute? (← attributes.field? longitude)⟩
  | _ => none

end Coordinates

/-- A located submission as GeoJSON. -/
def Submission.geoJson (s : SubmissionSettings) (x : Submission) (c : Coordinates) : Document :=
  .record [("type", .text "FeatureCollection"),
    ("features", .list [.record [("type", .text "Feature"),
      ("geometry", .record [("type", .text "Point"),
        ("coordinates", .list [.ofReal c.longitude, .ofReal c.latitude])]),
      ("properties", x.compiled s)]])]

end SurveyDispatch
