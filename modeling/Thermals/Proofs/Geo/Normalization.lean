import Mathlib.Data.Int.ModEq
import Thermals.Proofs.Geo.Degrees
import Thermals.Proofs.Number.Representable

namespace Thermals.Geo

open Number

def signed (negative : Bool) (units : Nat) : Int := if negative then -units else units

def unitsOf (x : Float) : Int := (Exact.ofFloat x).signedUnits?.getD 0

def remainder (x : Float) : Int := (unitsOf x).tmod (degrees 360)

theorem unitsOf_of_exact {x : Float} {negative : Bool} {units : Nat}
    (exact : Exact.ofFloat x = .finite negative units) : unitsOf x = signed negative units := by
  rw [unitsOf, exact]
  rfl

theorem signed_false (units : Nat) : signed false units = units := rfl

theorem signed_true (units : Nat) : signed true units = -units := rfl

theorem signed_zero (negative : Bool) : signed negative 0 = 0 := by
  cases negative <;> rfl

theorem natAbs_signed (negative : Bool) (units : Nat) : (signed negative units).natAbs = units := by
  cases negative
  · exact Int.natAbs_natCast units
  · exact (Int.natAbs_neg units).trans (Int.natAbs_natCast units)

theorem natAbs_remainder {x : Float} {negative : Bool} {units : Nat}
    (exact : Exact.ofFloat x = .finite negative units) :
    (remainder x).natAbs = units % degrees 360 := by
  rw [remainder, unitsOf_of_exact exact, Int.natAbs_tmod, natAbs_signed, Int.natAbs_natCast]

theorem signed_mod (negative : Bool) (units turn : Nat) :
    signed negative (units % turn) ≡ signed negative units [ZMOD turn] := by
  have positive : ((units % turn : Nat) : Int) ≡ units [ZMOD turn] := by
    rw [Int.natCast_mod]
    exact Int.mod_modEq units turn
  cases negative
  · exact positive
  · exact positive.neg

theorem degrees_mul (n k : Nat) : degrees (n * k) = n * degrees k := Nat.mul_assoc n k one

theorem degrees_pos {n : Nat} (pos : 0 < n) : 0 < degrees n := Nat.mul_pos pos one_pos

-- The power is left open so that no later step computes with it.
theorem one_eq : ∃ power ≤ 2045, one = 2 ^ power := ⟨1074, by decide, by decide +kernel⟩

theorem onGrid_degrees {power n : Nat} (scale : one = 2 ^ power) (short : n < 2 ^ 53) :
    OnGrid power (degrees n) := by
  rw [degrees, scale]
  exact ⟨Nat.dvd_mul_left _ n, Nat.mul_lt_mul_of_pos_right short (Nat.two_pow_pos power)⟩

theorem rest_lt (units : Nat) : units % degrees 360 < degrees 360 :=
  Nat.mod_lt _ (degrees_pos (by decide))

/-- An angle of less than a turn is left as it is, or exchanged for one that is not larger and, with it or
without it, makes up whole degrees. -/
def Folds (range : Bool → Nat → Bool × Nat) : Prop :=
  ∀ negative rest, rest < degrees 360 → (range negative rest).2 ≤ rest ∧
    ∃ n, rest + (range negative rest).2 = degrees n ∨ (range negative rest).2 + degrees n = rest

theorem folds_longitudeUnits : Folds longitudeUnits := by
  have turn : degrees 360 = 2 * degrees 180 := degrees_mul 2 180
  intro negative rest less
  unfold longitudeUnits
  split
  · exact ⟨by simp only; omega, 360, Or.inl (by simp only; omega)⟩
  · exact ⟨Nat.le_refl rest, 0, Or.inr (by simp [degrees])⟩

theorem folds_latitudeUnits : Folds latitudeUnits := by
  have half : degrees 180 = 2 * degrees 90 := degrees_mul 2 90
  intro negative rest less
  unfold latitudeUnits
  split
  · split
    · exact ⟨by simp only; omega, 180, Or.inl (by simp only; omega)⟩
    · exact ⟨Nat.sub_le _ _, 180, Or.inr (by simp only; omega)⟩
  · exact ⟨Nat.le_refl rest, 0, Or.inr (by simp [degrees])⟩

theorem exact_normalize {range : Bool → Nat → Bool × Nat} {x : Float} {negative : Bool} {units : Nat}
    (folds : Folds range) (exact : Exact.ofFloat x = .finite negative units) :
    Exact.ofFloat (normalize range x) = .finite (range negative (units % degrees 360)).1
      (range negative (units % degrees 360)).2 := by
  obtain ⟨power, bound, scale⟩ := one_eq
  have turning : OnGrid power (degrees 360) := onGrid_degrees scale (by decide)
  obtain ⟨fine, le, grid⟩ := (representable_of_exact exact).mod turning (degrees_pos (by decide))
  have whole (n : Nat) : 2 ^ fine ∣ degrees n := by
    rw [degrees, scale]
    exact Nat.dvd_trans (Nat.pow_dvd_pow 2 le) (Nat.dvd_mul_left _ n)
  obtain ⟨small, n, apart⟩ := folds negative _ (rest_lt units)
  have dvd : 2 ^ fine ∣ (range negative (units % degrees 360)).2 := by
    rcases apart with together | apart
    · have sum := whole n
      rw [← together] at sum
      exact (Nat.dvd_add_right grid.dvd).mp sum
    · have sum := grid.dvd
      rw [← apart] at sum
      exact (Nat.dvd_add_left (whole n)).mp sum
  -- The remainder, the whole degrees and the outcome are on one grid, and no finer one is needed for it.
  have held := (grid.of_le small dvd).representable (Nat.le_trans le bound)
  rw [normalize, exact]
  exact held.exact _

theorem signed_longitudeUnits (negative : Bool) (rest : Nat) (less : rest < degrees 360) :
    signed (longitudeUnits negative rest).1 (longitudeUnits negative rest).2 ≡
      signed negative rest [ZMOD degrees 360] := by
  unfold longitudeUnits
  split
  · rw [Int.modEq_iff_add_fac]
    cases negative
    · refine ⟨1, ?_⟩
      simp only [Bool.not_false, signed_false, signed_true]
      omega
    · refine ⟨-1, ?_⟩
      simp only [Bool.not_true, signed_false, signed_true]
      omega
  · exact Int.ModEq.refl _

theorem longitudeUnits_le (negative : Bool) (rest : Nat) :
    (longitudeUnits negative rest).2 ≤ degrees 180 := by
  have turn : degrees 360 = 2 * degrees 180 := degrees_mul 2 180
  unfold longitudeUnits
  split
  · simp only
    omega
  · rename_i inside
    exact Nat.not_lt.mp inside

theorem signed_sub (negative : Bool) (pole rest : Nat) :
    signed (negative && rest != pole) (pole - rest) = signed negative (pole - rest) := by
  by_cases same : rest = pole
  · rw [same, Nat.sub_self, signed_zero, signed_zero]
  · rw [bne_iff_ne.mpr same, Bool.and_true]

def mirrored (half : Nat) (negative : Bool) (rest : Nat) : Bool × Nat :=
  if rest ≤ half then (negative && rest != half, half - rest) else (!negative, rest - half)

theorem latitudeUnits_eq (negative : Bool) (rest : Nat) : latitudeUnits negative rest =
    if degrees 90 < rest then mirrored (degrees 180) negative rest else (negative, rest) := rfl

theorem signed_mirrored (half : Nat) (negative : Bool) (rest : Nat) :
    signed (mirrored half negative rest).1 (mirrored half negative rest).2 ≡
      half - signed negative rest [ZMOD (2 * half : Nat)] := by
  rw [Int.modEq_iff_add_fac]
  unfold mirrored
  cases negative
  · refine ⟨0, ?_⟩
    split
    · simp only [signed_sub, signed_false]
      omega
    · simp only [Bool.not_false, signed_false, signed_true]
      omega
  · refine ⟨1, ?_⟩
    split
    · simp only [signed_sub, signed_true]
      omega
    · simp only [Bool.not_true, signed_false, signed_true]
      omega

theorem signed_latitudeUnits (negative : Bool) (rest : Nat) :
    signed (latitudeUnits negative rest).1 (latitudeUnits negative rest).2 ≡
        signed negative rest [ZMOD degrees 360] ∨
      signed (latitudeUnits negative rest).1 (latitudeUnits negative rest).2 ≡
        degrees 180 - signed negative rest [ZMOD degrees 360] := by
  have turn : degrees 360 = 2 * degrees 180 := degrees_mul 2 180
  rw [latitudeUnits_eq, turn]
  split
  · exact Or.inr (signed_mirrored _ negative rest)
  · exact Or.inl (Int.ModEq.refl _)

theorem latitudeUnits_le_iff (negative : Bool) (rest : Nat) :
    (latitudeUnits negative rest).2 ≤ degrees 90 ↔ rest ≤ degrees 270 := by
  have half : degrees 180 = 2 * degrees 90 := degrees_mul 2 90
  have most : degrees 270 = 3 * degrees 90 := degrees_mul 3 90
  unfold latitudeUnits
  split
  · split <;> simp only <;> omega
  · simp only
    omega

theorem normalizeLongitude_spec {x : Float} (finite : x.isFinite = true) :
    Within 180.0 (normalizeLongitude x) ∧
      unitsOf (normalizeLongitude x) ≡ unitsOf x [ZMOD degrees 360] := by
  obtain ⟨negative, units, exact⟩ := isFinite_iff.mp finite
  have normal := exact_normalize folds_longitudeUnits exact
  constructor
  · exact (within_iff exact_halfTurn).mpr ⟨_, _, normal, longitudeUnits_le _ _⟩
  · rw [normalizeLongitude, unitsOf_of_exact normal, unitsOf_of_exact exact]
    exact (signed_longitudeUnits negative _ (rest_lt units)).trans (signed_mod negative units _)

theorem normalizeLatitude_spec {x : Float} (finite : x.isFinite = true) :
    (normalizeLatitude x).isFinite = true ∧
      (unitsOf (normalizeLatitude x) ≡ unitsOf x [ZMOD degrees 360] ∨
        unitsOf (normalizeLatitude x) ≡ degrees 180 - unitsOf x [ZMOD degrees 360]) ∧
      (Within 90.0 (normalizeLatitude x) ↔ (remainder x).natAbs ≤ degrees 270) := by
  obtain ⟨negative, units, exact⟩ := isFinite_iff.mp finite
  have normal := exact_normalize folds_latitudeUnits exact
  have whole := signed_mod negative units (degrees 360)
  refine ⟨isFinite_iff.mpr ⟨_, _, normal⟩, ?_, ?_⟩
  · rw [normalizeLatitude, unitsOf_of_exact normal, unitsOf_of_exact exact]
    rcases signed_latitudeUnits negative (units % degrees 360) with same | mirrored
    · exact Or.inl (same.trans whole)
    · exact Or.inr (mirrored.trans (whole.sub_left _))
  · rw [natAbs_remainder exact, ← latitudeUnits_le_iff negative, normalizeLatitude,
      within_iff_of_exact exact_ninety normal]

theorem normalizeLatitude_eq_self_iff {x : Float} (finite : x.isFinite = true) :
    normalizeLatitude x = x ↔ Within 90.0 x := by
  obtain ⟨negative, units, exact⟩ := isFinite_iff.mp finite
  constructor
  · intro fixed
    have normal := exact_normalize folds_latitudeUnits exact
    rw [← normalizeLatitude, fixed, exact] at normal
    have same := (Exact.finite.inj normal).2
    have less := Nat.mod_le units (degrees 360)
    have half : degrees 180 = 2 * degrees 90 := degrees_mul 2 90
    have right : 0 < degrees 90 := degrees_pos (by decide)
    rw [within_iff_of_exact exact_ninety exact]
    unfold latitudeUnits at same
    split at same
    · split at same <;> simp only at same <;> omega
    · omega
  · exact normalizeLatitude_of_within

/-- A longitude comes to lie in its range, whole turns away. A latitude comes to lie whole turns away from
the angle or from its supplement, and in its range as long as there are no more than three right angles
beside whole turns. -/
theorem ofDegrees_normalized {longitude latitude : Float} (east : longitude.isFinite = true)
    (north : latitude.isFinite = true) :
    (Within 180.0 (Point.ofDegrees longitude latitude).longitude ∧
        unitsOf (Point.ofDegrees longitude latitude).longitude ≡ unitsOf longitude
          [ZMOD degrees 360]) ∧
      (Point.ofDegrees longitude latitude).latitude.isFinite = true ∧
      (unitsOf (Point.ofDegrees longitude latitude).latitude ≡ unitsOf latitude
          [ZMOD degrees 360] ∨
        unitsOf (Point.ofDegrees longitude latitude).latitude ≡ degrees 180 - unitsOf latitude
          [ZMOD degrees 360]) ∧
      (Within 90.0 (Point.ofDegrees longitude latitude).latitude ↔
        (remainder latitude).natAbs ≤ degrees 270) :=
  ⟨normalizeLongitude_spec east, normalizeLatitude_spec north⟩

theorem normalized_after_many_turns :
    (1e17 : Float).isFinite = true ∧ (-970.0 : Float).isFinite = true ∧
      Within 180.0 (Point.ofDegrees 1e17 (-970.0)).longitude ∧
      Within 90.0 (Point.ofDegrees 1e17 (-970.0)).latitude := by
  have east : (1e17 : Float).isFinite = true := by decide +kernel
  have north : (-970.0 : Float).isFinite = true := by decide +kernel
  obtain ⟨⟨longitude, -⟩, -, -, latitude⟩ := ofDegrees_normalized east north
  exact ⟨east, north, longitude, latitude.mpr (by decide +kernel)⟩

theorem latitude_left_beyond_pole :
    (8.0 : Float).isFinite = true ∧ (271.0 : Float).isFinite = true ∧
      Point.ofDegrees 8.0 271.0 = ⟨8.0, -91.0⟩ ∧ ¬ Within 90.0 (Point.ofDegrees 8.0 271.0).latitude := by
  have value : Exact.ofFloat (-91.0) = .finite true (degrees 91) := by decide +kernel
  have mirrored : Point.ofDegrees 8.0 271.0 = ⟨8.0, -91.0⟩ := by decide +kernel
  refine ⟨by decide +kernel, by decide +kernel, mirrored, ?_⟩
  rw [mirrored, within_iff_of_exact exact_ninety value]
  exact Nat.not_le.mpr (Nat.mul_lt_mul_of_pos_right (by decide) one_pos)

end Thermals.Geo
