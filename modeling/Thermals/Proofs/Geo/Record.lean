import Thermals.Json.Records
import Thermals.Proofs.Geo.Normalization

namespace Thermals.Geo

open Number

theorem Point.ofJson?_json {p : Point}
    (longitude : readNumber? (.ofFloat p.longitude) = some p.longitude)
    (latitude : readNumber? (.ofFloat p.latitude) = some p.latitude) :
    ofJson? p.json = some (ofDegrees p.longitude p.latitude) := by
  have lon : Json.unescaped? (Json.escaped "lon") = some "lon" := rfl
  have lat : Json.unescaped? (Json.escaped "lat") = some "lat" := rfl
  simp [json, Json.Value.record, ofJson?, lon, lat, readField?, longitudeKeys, latitudeKeys, longitude,
    latitude]

/-- A point that was made from degrees is read back as it was just where its latitude is in range. The two
numbers have to come back from texts of their own. -/
theorem reread_where_in_range {longitude latitude : Float} {p : Point}
    (east : longitude.isFinite = true) (north : latitude.isFinite = true)
    (made : p = Point.ofDegrees longitude latitude) :
    normalizeLongitude p.longitude = p.longitude ∧
      (normalizeLatitude p.latitude = p.latitude ↔ (remainder latitude).natAbs ≤ degrees 270) ∧
      (Point.ofDegrees p.longitude p.latitude = p ↔ (remainder latitude).natAbs ≤ degrees 270) ∧
      (Point.readNumber? (.ofFloat p.longitude) = some p.longitude →
        Point.readNumber? (.ofFloat p.latitude) = some p.latitude →
        (Point.ofJson? p.json = some p ↔ (remainder latitude).natAbs ≤ degrees 270)) := by
  obtain ⟨finite, -, within⟩ := normalizeLatitude_spec north
  have eastward : normalizeLongitude p.longitude = p.longitude := by
    rw [made]
    exact normalizeLongitude_of_within (normalizeLongitude_spec east).1
  have northward : normalizeLatitude p.latitude = p.latitude ↔
      (remainder latitude).natAbs ≤ degrees 270 := by
    rw [made]
    exact (normalizeLatitude_eq_self_iff finite).trans within
  have again : Point.ofDegrees p.longitude p.latitude = p ↔
      (remainder latitude).natAbs ≤ degrees 270 := by
    rw [← northward, Point.ofDegrees, eastward]
    exact ⟨congrArg Point.latitude, fun same => by rw [same]⟩
  refine ⟨eastward, northward, again, ?_⟩
  intro longitude_text latitude_text
  rw [Point.ofJson?_json longitude_text latitude_text, Option.some.injEq]
  exact again

theorem reread_far_south_east :
    (560.5 : Float).isFinite = true ∧ (-100.25 : Float).isFinite = true ∧
      Point.ofDegrees 560.5 (-100.25) = ⟨-159.5, -79.75⟩ ∧
      Point.ofJson? (Point.ofDegrees 560.5 (-100.25)).json =
        some (Point.ofDegrees 560.5 (-100.25)) := by
  have east : (560.5 : Float).isFinite = true := by decide +kernel
  have north : (-100.25 : Float).isFinite = true := by decide +kernel
  obtain ⟨-, -, -, reread⟩ := reread_where_in_range east north rfl
  exact ⟨east, north, by decide +kernel,
    (reread (by decide +kernel) (by decide +kernel)).mpr (by decide +kernel)⟩

theorem latitude_changed_when_reread :
    let p := Point.ofDegrees 8.0 271.0
    (271.0 : Float).isFinite = true ∧ p = ⟨8.0, -91.0⟩ ∧
      Point.readNumber? (.ofFloat p.longitude) = some p.longitude ∧
      Point.readNumber? (.ofFloat p.latitude) = some p.latitude ∧
      Point.ofDegrees p.longitude p.latitude = ⟨8.0, -89.0⟩ ∧
      Point.ofJson? p.json = some ⟨8.0, -89.0⟩ ∧ Point.ofJson? p.json ≠ some p := by
  intro p
  have stored : p = ⟨8.0, -91.0⟩ := by decide +kernel
  have longitude : Point.readNumber? (.ofFloat p.longitude) = some p.longitude := by
    rw [stored]
    decide +kernel
  have latitude : Point.readNumber? (.ofFloat p.latitude) = some p.latitude := by
    rw [stored]
    decide +kernel
  have again : Point.ofDegrees p.longitude p.latitude = ⟨8.0, -89.0⟩ := by
    rw [stored]
    decide +kernel
  have reread : Point.ofJson? p.json = some ⟨8.0, -89.0⟩ := by
    rw [Point.ofJson?_json longitude latitude, again]
  refine ⟨by decide +kernel, stored, longitude, latitude, again, reread, ?_⟩
  rw [reread, stored]
  decide +kernel

end Thermals.Geo
