import Thermals.Geo.Point
import Thermals.Log.Record
import Thermals.Proofs.Number.Binary64

namespace Thermals.Geo

open Number

structure Within (limit x : Float) : Prop where
  finite : x.isFinite = true
  bounded : x.abs ≤ limit

theorem one_pos : 0 < one := by decide +kernel

theorem within_iff {limit x : Float} {n : Nat}
    (exact : Exact.ofFloat limit = .finite false (degrees n)) :
    Within limit x ↔ ∃ negative units, Exact.ofFloat x = .finite negative units ∧ units ≤ degrees n := by
  constructor
  · intro within
    obtain ⟨negative, units, value⟩ := isFinite_iff.mp within.finite
    have bounded := (le_iff_of_exact (exact_abs value) exact).mp within.bounded
    exact ⟨negative, units, value, bounded⟩
  · intro found
    obtain ⟨negative, units, value, bounded⟩ := found
    have finite := isFinite_iff.mpr ⟨negative, units, value⟩
    exact ⟨finite, (le_iff_of_exact (exact_abs value) exact).mpr bounded⟩

theorem within_iff_of_exact {limit x : Float} {n : Nat} {negative : Bool} {units : Nat}
    (exact : Exact.ofFloat limit = .finite false (degrees n))
    (value : Exact.ofFloat x = .finite negative units) : Within limit x ↔ units ≤ degrees n := by
  rw [within_iff exact, value]
  constructor
  · intro found
    obtain ⟨_, _, same, bounded⟩ := found
    rwa [(Exact.finite.inj same).2]
  · intro bounded
    exact ⟨negative, units, rfl, bounded⟩

theorem exact_ninety : Exact.ofFloat 90.0 = .finite false (degrees 90) := by decide +kernel

theorem exact_halfTurn : Exact.ofFloat 180.0 = .finite false (degrees 180) := by decide +kernel

theorem isCoordinate_iff {limit : Float} {n : Nat}
    (exact : Exact.ofFloat limit = .finite false (degrees n)) (x : Float) :
    Log.Record.isCoordinate n x = true ↔ Within limit x := by
  rw [within_iff exact, Log.Record.isCoordinate]
  cases Exact.ofFloat x <;> simp

theorem normalize_of_exact {range : Bool → Nat → Bool × Nat} {angle : Float} {negative : Bool}
    {units : Nat} (exact : Exact.ofFloat angle = .finite negative units)
    (small : units < degrees 360) (fixed : range negative units = (negative, units)) :
    normalize range angle = angle := by
  rw [normalize, exact]
  simp only [Nat.mod_eq_of_lt small, fixed]
  exact ofUnits_of_exact exact

theorem normalizeLongitude_of_within {angle : Float} (within : Within 180.0 angle) :
    normalizeLongitude angle = angle := by
  obtain ⟨negative, units, exact, bounded⟩ := (within_iff exact_halfTurn).mp within
  have turn : degrees 180 < degrees 360 := Nat.mul_lt_mul_of_pos_right (by decide) one_pos
  apply normalize_of_exact exact (Nat.lt_of_le_of_lt bounded turn)
  rw [longitudeUnits, if_neg (Nat.not_lt.mpr bounded)]

theorem normalizeLatitude_of_within {angle : Float} (within : Within 90.0 angle) :
    normalizeLatitude angle = angle := by
  obtain ⟨negative, units, exact, bounded⟩ := (within_iff exact_ninety).mp within
  have turn : degrees 90 < degrees 360 := Nat.mul_lt_mul_of_pos_right (by decide) one_pos
  apply normalize_of_exact exact (Nat.lt_of_le_of_lt bounded turn)
  rw [latitudeUnits, if_neg (Nat.not_lt.mpr bounded)]

theorem ofDegrees_of_within {longitude latitude : Float} (east : Within 180.0 longitude)
    (north : Within 90.0 latitude) : Point.ofDegrees longitude latitude = ⟨longitude, latitude⟩ := by
  rw [Point.ofDegrees, normalizeLongitude_of_within east, normalizeLatitude_of_within north]

end Thermals.Geo
