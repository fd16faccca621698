import Thermals.Detection.Track
import Thermals.Proofs.Geo.Box
import Thermals.Proofs.Window

namespace Thermals.Detection

open Geo Number

section Window

variable {window : Window Point} {oldest : Point} {maxDiameter : Float}

theorem withinArea_of_short (short : window.size < 2) : withinArea window maxDiameter = true :=
  if_pos short

theorem withinArea_of_enclosing {box : Box} (long : 2 ≤ window.size)
    (enclosed : Box.enclosing? window.items = some box) :
    withinArea window maxDiameter = decide (box.diagonal ≤ maxDiameter) := by
  rw [withinArea, if_neg (Nat.not_lt.mpr long), enclosed]

theorem withinArea_of_nan (long : 2 ≤ window.size) (first : window.oldest? = some oldest)
    (unknown : oldest.hasNaN = true) : withinArea window maxDiameter = false := by
  obtain ⟨rest, items⟩ := List.head?_eq_some_iff.mp first
  obtain ⟨box, enclosed, corner⟩ := Box.enclosing?_of_nan unknown rest
  rw [← items] at enclosed
  rw [withinArea_of_enclosing long enclosed]
  exact decide_eq_false (not_distance_le_of_nan corner _ _)

theorem withinArea_of_known {box : Box} (long : 2 ≤ window.size)
    (first : window.oldest? = some oldest) (oldest_known : oldest.hasNaN = false)
    (spans : box.Spans (known (window.items.map Point.longitude))
      (known (window.items.map Point.latitude))) :
    withinArea window maxDiameter =
      decide (box.southWest.distance box.northEast ≤ maxDiameter) := by
  obtain ⟨rest, items⟩ := List.head?_eq_some_iff.mp first
  obtain ⟨found, enclosed, found_spans⟩ := Box.enclosing?_of_known oldest_known rest
  rw [← items] at enclosed found_spans
  rw [withinArea_of_enclosing long enclosed,
    found_spans.diagonal_eq spans (SamePlaces.refl _) (SamePlaces.refl _)]
  rfl

end Window

section Known

variable {points : List Point} (all_known : ∀ p ∈ points, p.hasNaN = false)

include all_known

theorem known_coordinates :
    known (points.map Point.longitude) = points.map Point.longitude ∧
      known (points.map Point.latitude) = points.map Point.latitude := by
  constructor <;> apply known_of_forall <;> rw [List.forall_mem_map] <;> intro p member
  · exact (Point.hasNaN_eq_false_iff.mp (all_known p member)).1
  · exact (Point.hasNaN_eq_false_iff.mp (all_known p member)).2

theorem enclosing?_tightest (nonempty : points ≠ []) :
    ∃ box, Box.enclosing? points = some box ∧ box.Tightest points := by
  obtain ⟨first, rest, rfl⟩ := List.exists_cons_of_ne_nil nonempty
  obtain ⟨box, enclosed, spans⟩ := Box.enclosing?_of_known (all_known first List.mem_cons_self) rest
  obtain ⟨longitudes, latitudes⟩ := known_coordinates all_known
  rw [longitudes, latitudes] at spans
  exact ⟨box, enclosed, Box.tightest_iff_spans.mpr spans⟩

theorem withinArea_of_tightest {window : Window Point} {box : Box} (stored : window.items = points)
    (long : 2 ≤ window.size) (tightest : box.Tightest points) (maxDiameter : Float) :
    withinArea window maxDiameter = decide (box.southWest.distance box.northEast ≤ maxDiameter) := by
  subst stored
  have spans := Box.tightest_iff_spans.mp tightest
  obtain ⟨longitudes, latitudes⟩ := known_coordinates all_known
  obtain ⟨oldest, first⟩ := window.exists_oldest (Nat.lt_of_lt_of_le Nat.zero_lt_two long)
  rw [← longitudes, ← latitudes] at spans
  exact withinArea_of_known long first (all_known oldest (List.mem_of_mem_head? first)) spans

/-- The area is judged by the smallest box around the points. Which points they are decides, and neither
their order nor how often each of them is there. A window holds the last points that went into it. -/
theorem judges_tightest_box (maxDiameter : Float) :
    (Box.enclosing? points = none ↔ points = []) ∧
    (∀ box, Box.enclosing? points = some box → box.Tightest points ∧
      ∀ other : Box, (∀ p ∈ points, other.Contains p) →
        other.west ≤ box.west ∧ box.east ≤ other.east ∧
          other.south ≤ box.south ∧ box.north ≤ other.north) ∧
    (∀ window : Window Point, window.items = points →
      (window.size < 2 → withinArea window maxDiameter = true) ∧
      (2 ≤ window.size → ∀ box : Box, box.Tightest points →
        withinArea window maxDiameter =
          decide (box.southWest.distance box.northEast ≤ maxDiameter)) ∧
      ∀ other : Window Point, 2 ≤ window.size → 2 ≤ other.size → SamePoints points other.items →
        withinArea other maxDiameter = withinArea window maxDiameter) ∧
    ∀ capacity (pushed : List Point),
      (Window.ofList capacity pushed).items = pushed.rtake (max capacity 1) := by
  refine ⟨Box.enclosing?_eq_none_iff, ?_, ?_, ?_⟩
  · intro box enclosed
    have nonempty : points ≠ [] := by
      rintro rfl
      cases enclosed
    obtain ⟨found, found_enclosed, tightest⟩ := enclosing?_tightest all_known nonempty
    obtain rfl := Option.some.inj (enclosed.symm.trans found_enclosed)
    exact ⟨tightest, fun other => tightest.least⟩
  · intro window stored
    refine ⟨withinArea_of_short, ?_, ?_⟩
    · intro long box tightest
      exact withinArea_of_tightest all_known stored long tightest maxDiameter
    · intro other long other_long same
      have other_known : ∀ p ∈ other.items, p.hasNaN = false := by
        intro p member
        obtain ⟨q, -, coincides⟩ := same.back p member
        exact coincides.known
      have nonempty : points ≠ [] := by
        rw [← stored]
        exact window.items_ne_nil (by omega)
      obtain ⟨box, -, tightest⟩ := enclosing?_tightest all_known nonempty
      obtain ⟨found, -, other_tightest⟩ :=
        enclosing?_tightest other_known (other.items_ne_nil (by omega))
      rw [withinArea_of_tightest all_known stored long tightest,
        withinArea_of_tightest other_known rfl other_long other_tightest]
      have same_diagonal := tightest.diagonal_eq other_tightest same
      rw [Box.diagonal, Box.diagonal] at same_diagonal
      rw [same_diagonal]
  · intro capacity pushed
    rw [Window.ofList_eq_last]
    rfl

end Known

theorem judged_in_either_order :
    let points : List Point := [⟨8.5, 47.5⟩, ⟨8.25, 47.25⟩, ⟨8.75, 47.0⟩]
    let window : Window Point := .ofList 3 (⟨-8.0, 50.0⟩ :: points)
    let other : Window Point := .ofList 7 (points.reverse ++ points)
    let box : Box := ⟨8.25, 47.0, 8.75, 47.5⟩
    (∀ p ∈ points, p.hasNaN = false) ∧ window.items = points ∧
    withinArea window 1000.0 = decide (box.southWest.distance box.northEast ≤ 1000.0) ∧
    withinArea other 1000.0 = withinArea window 1000.0 := by
  intro points window other box
  have all_known : ∀ p ∈ points, p.hasNaN = false := by decide +kernel
  have stored : window.items = points := by decide +kernel
  have tightest : box.Tightest points := by constructor <;> decide +kernel
  have same : SamePoints points other.items := by constructor <;> decide +kernel
  have long : 2 ≤ window.size := by decide +kernel
  have other_long : 2 ≤ other.size := by decide +kernel
  obtain ⟨-, -, judged, -⟩ := judges_tightest_box all_known 1000.0
  obtain ⟨-, boxed, reordered⟩ := judged window stored
  exact ⟨all_known, stored, boxed long box tightest, reordered other long other_long same⟩

end Thermals.Detection
