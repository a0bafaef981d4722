import SurveyDispatch.Location.Coordinates
import SurveyDispatch.Proofs.Number.Spellings

/-!
# Coordinates from responses

An attribute value is read as a number with infinities.  A number of a document always is read as a
finite one.  A text may be the word for an infinity or for no number, or spell a number that is too
large (`Coordinates.Unbounded`).

A coordinate that is read from such a text is written as null.  So the point of a located submission
has two numbers, the longitude and then the latitude, exactly if neither attribute is such a text
(`Submission.coordinates_written`).
-/

namespace SurveyDispatch

namespace Coordinates

open Real64 (SpellsSpecial Spells)

variable {s : LocationSettings} {response v : Document} {c : Coordinates} {y : Real64}

/-- A text of which no finite number is read: a word, or a number that is too large. -/
def Unbounded : Document → Prop
  | .text s => SpellsSpecial (Text.trim s.toList) ∨
      ∃ l, Spells l (Text.trim s.toList) ∧ Binary64.limit ≤ |l.denoted|
  | _ => False

/-! ## Attribute values -/

/-- A number is read as a finite one. -/
theorem exists_ofAttribute?_number (n : Number) :
    ∃ x, ofAttribute? (.number n) = some (.finite x) := by
  cases n with
  | integer i inRange =>
    obtain ⟨x, nearest⟩ := Option.ne_none_iff_exists'.mp (Binary64.ofInt?_ne_none inRange)
    exact ⟨x, by rw [ofAttribute?, Number.nearest?, nearest, Option.map_some]⟩
  | float x => exact ⟨x, rfl⟩

/-- A text is a coordinate if it spells one between blanks. -/
theorem ofAttribute?_text_eq_some_iff {text : String} :
    ofAttribute? (.text text) = some y ↔ Real64.read (Text.trim text.toList) = .ok y := by
  rw [ofAttribute?]
  cases Real64.read (Text.trim text.toList) with
  | ok x => simp [Except.toOption]
  | error fault => simp [Except.toOption]

/-- What is read is finite unless the text says otherwise. -/
theorem isFinite_iff_of_ofAttribute? (h : ofAttribute? v = some y) :
    y.IsFinite ↔ ¬ Unbounded v := by
  cases v with
  | number n =>
    obtain ⟨x, finite⟩ := exists_ofAttribute?_number n
    rw [finite] at h
    cases h
    exact ⟨fun _ => not_false, fun _ => ⟨x, rfl⟩⟩
  | text text =>
    rw [ofAttribute?_text_eq_some_iff] at h
    rw [Unbounded, ← Real64.read_not_finite_iff, h]
    simp
  | _ => cases h

/-- Just the numbers that are not finite are written as null. -/
theorem ofReal_eq_null_iff : Document.ofReal y = .null ↔ ¬ y.IsFinite := by
  cases y <;> simp [Document.ofReal, Real64.IsFinite]

/-- Just the finite numbers are written as numbers. -/
theorem exists_ofReal_eq_number_iff : (∃ n, Document.ofReal y = .number n) ↔ y.IsFinite := by
  cases y <;> simp [Document.ofReal, Real64.IsFinite]

/-! ## Responses -/

/-- Coordinates come from the first two of the requested fields of the first feature. -/
theorem ofResponse?_eq_some (h : ofResponse? s response = some c) :
    ∃ attributes latitude longitude rest v w, firstFeature? response = some attributes ∧
      s.outFields = latitude :: longitude :: rest ∧
      attributes.field? latitude = some v ∧ attributes.field? longitude = some w ∧
      ofAttribute? v = some c.latitude ∧ ofAttribute? w = some c.longitude := by
  obtain ⟨attributes, first, h⟩ := Option.bind_eq_some_iff.mp h
  split at h
  next latitude longitude rest fields =>
    obtain ⟨v, hv, h⟩ := Option.bind_eq_some_iff.mp h
    obtain ⟨y, hy, h⟩ := Option.bind_eq_some_iff.mp h
    obtain ⟨w, hw, h⟩ := Option.bind_eq_some_iff.mp h
    obtain ⟨z, hz, h⟩ := Option.bind_eq_some_iff.mp h
    cases h
    exact ⟨attributes, latitude, longitude, rest, v, w, first, fields, hv, hw, hy, hz⟩
  · cases h

end Coordinates

namespace Submission

open Coordinates (Unbounded)

variable {s : LocationSettings} {response : Document} {c : Coordinates}

/-- Where the point of a located submission is. -/
def pointPath : String := "features/0/geometry/coordinates"

/-- The point of a GeoJSON has the longitude in front of the latitude. -/
theorem lookup_geoJson (form : SubmissionSettings) (x : Submission) (c : Coordinates) :
    (x.geoJson form c).lookup pointPath =
      some (.list [.ofReal c.longitude, .ofReal c.latitude]) := rfl

/-- The point of a submission has the longitude and the latitude that were read, each of them as a
number unless the text of its attribute has no finite number. -/
theorem coordinates_written (h : Coordinates.ofResponse? s response = some c) :
    ∃ attributes latitude longitude rest v w,
      Coordinates.firstFeature? response = some attributes ∧
      s.outFields = latitude :: longitude :: rest ∧
      attributes.field? latitude = some v ∧ attributes.field? longitude = some w ∧
      (c.latitude.IsFinite ↔ ¬ Unbounded v) ∧ (c.longitude.IsFinite ↔ ¬ Unbounded w) ∧
      (Document.ofReal c.latitude = .null ↔ Unbounded v) ∧
      (Document.ofReal c.longitude = .null ↔ Unbounded w) ∧
      ∀ (form : SubmissionSettings) (x : Submission),
        (x.geoJson form c).lookup pointPath =
          some (.list [.ofReal c.longitude, .ofReal c.latitude]) ∧
        ((∃ m n, (x.geoJson form c).lookup pointPath = some (.list [.number m, .number n])) ↔
          ¬ Unbounded v ∧ ¬ Unbounded w) := by
  obtain ⟨attributes, latitude, longitude, rest, v, w, first, fields, hv, hw, north, east⟩ :=
    Coordinates.ofResponse?_eq_some h
  have north := Coordinates.isFinite_iff_of_ofAttribute? north
  have east := Coordinates.isFinite_iff_of_ofAttribute? east
  refine ⟨attributes, latitude, longitude, rest, v, w, first, fields, hv, hw, north, east, ?_, ?_,
    fun form x => ⟨lookup_geoJson form x c, ?_⟩⟩
  · rw [Coordinates.ofReal_eq_null_iff, north, not_not]
  · rw [Coordinates.ofReal_eq_null_iff, east, not_not]
  · rw [← north, ← east, ← Coordinates.exists_ofReal_eq_number_iff,
      ← Coordinates.exists_ofReal_eq_number_iff]
    constructor
    · rintro ⟨m, n, point⟩
      simp only [lookup_geoJson, Option.some.injEq, Document.list.injEq, List.cons.injEq,
        and_true] at point
      exact ⟨⟨n, point.2⟩, m, point.1⟩
    · rintro ⟨⟨n, north⟩, m, east⟩
      exact ⟨m, n, by rw [lookup_geoJson, north, east]⟩

/-- A response with a word in place of the latitude. -/
def boundlessResponse : Document :=
  .record [("features", .list [.record [("attributes",
    .record [("lat_wgs84", .text " -Infinity"), ("lon_wgs84", .text "5.5")])]])]

/-- The coordinates of this response. -/
def boundlessPoint : Coordinates :=
  ⟨.infinite true, .finite ⟨false, 6192449487634432, 1024, by decide⟩⟩

theorem coordinates_written_boundless :
    Coordinates.ofResponse? .default boundlessResponse = some boundlessPoint ∧
      Unbounded (.text " -Infinity") ∧ ¬ boundlessPoint.latitude.IsFinite ∧
      ∀ (form : SubmissionSettings) (x : Submission), ∃ n,
        (x.geoJson form boundlessPoint).lookup pointPath = some (.list [.number n, .null]) := by
  have read : Coordinates.ofResponse? .default boundlessResponse = some boundlessPoint := by
    decide +kernel
  have word : Real64.SpellsSpecial ['-', 'I', 'n', 'f', 'i', 'n', 'i', 't', 'y'] :=
    ⟨true, ['-'], _, .minus, .inl (.inr (by decide)), rfl⟩
  have unbounded : Unbounded (.text " -Infinity") := .inl word
  obtain ⟨attributes, latitude, longitude, rest, v, w, first, fields, north, -, finite, -, -, -,
    written⟩ := coordinates_written read
  cases first
  cases fields
  cases north
  exact ⟨read, unbounded, fun known => finite.mp known unbounded,
    fun form x => ⟨_, (written form x).1⟩⟩

end Submission

end SurveyDispatch
