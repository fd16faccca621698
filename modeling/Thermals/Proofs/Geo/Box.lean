import Thermals.Geo.Box
import Thermals.Proofs.Geo.Distance
import Thermals.Proofs.Number.Order

namespace Thermals.Geo

open Number

/-- Two of some values, with all of them in between. -/
structure Bounds (low high : Float) (values : List Float) : Prop where
  low_mem : low ∈ values
  high_mem : high ∈ values
  low_le : ∀ x ∈ values, low ≤ x
  le_high : ∀ x ∈ values, x ≤ high

def known (values : List Float) : List Float := values.filter fun x => !x.isNaN

theorem known_of_forall {values : List Float} (all : ∀ x ∈ values, x.isNaN = false) :
    known values = values := by
  rw [known, List.filter_eq_self]
  intro x member
  rw [all x member]
  rfl

theorem extend_of_nan {x : Float} (nan : x.isNaN = true) (r : Float × Float) : extend x r = r := by
  obtain ⟨low, high⟩ := r
  rw [extend, if_neg (not_lt_of_nan (.inr nan)), if_neg (not_lt_of_nan (.inl nan))]

theorem range_of_nan {first : Float} (nan : first.isNaN = true) (rest : List Float) :
    range first rest = (first, first) := by
  unfold range
  induction rest with
  | nil => rfl
  | cons x rest ih =>
    rw [List.foldl_cons, extend, if_neg (not_lt_of_nan (.inl nan)), if_neg (not_lt_of_nan (.inr nan))]
    exact ih

theorem ordered_of_nan {x : Float} (nan : x.isNaN = true) : ordered x x = (x, x) := by
  rw [ordered, if_neg (not_lt_of_nan (.inl nan))]

structure SamePlaces (values others : List Float) : Prop where
  forth : ∀ x ∈ values, ∃ y ∈ others, place x = place y
  back : ∀ y ∈ others, ∃ x ∈ values, place y = place x

theorem SamePlaces.refl (values : List Float) : SamePlaces values values :=
  ⟨fun x member => ⟨x, member, rfl⟩, fun x member => ⟨x, member, rfl⟩⟩

namespace Bounds

variable {low high low' high' x : Float} {values others : List Float}

theorem isNaN_eq_false (bounds : Bounds low high values) (member : x ∈ values) : x.isNaN = false :=
  (known_of_le (bounds.low_le x member)).2

theorem low_le_high (bounds : Bounds low high values) : low ≤ high :=
  bounds.low_le high bounds.high_mem

theorem singleton (known : x.isNaN = false) : Bounds x x [x] where
  low_mem := List.mem_singleton_self x
  high_mem := List.mem_singleton_self x
  low_le := List.forall_mem_singleton.mpr (le_refl_of_known known)
  le_high := List.forall_mem_singleton.mpr (le_refl_of_known known)

theorem append_singleton (bounds : Bounds low high values) (from_low : low ≤ x) (to_high : x ≤ high) :
    Bounds low high (values ++ [x]) where
  low_mem := List.mem_append_left _ bounds.low_mem
  high_mem := List.mem_append_left _ bounds.high_mem
  low_le := List.forall_mem_append.mpr ⟨bounds.low_le, List.forall_mem_singleton.mpr from_low⟩
  le_high := List.forall_mem_append.mpr ⟨bounds.le_high, List.forall_mem_singleton.mpr to_high⟩

theorem raise (bounds : Bounds low high values) (above : high < x) : Bounds low x (values ++ [x]) where
  low_mem := List.mem_append_left _ bounds.low_mem
  high_mem := List.mem_append_right _ (List.mem_singleton_self x)
  low_le := List.forall_mem_append.mpr ⟨bounds.low_le,
    List.forall_mem_singleton.mpr (le_trans bounds.low_le_high (le_of_lt above))⟩
  le_high := List.forall_mem_append.mpr
    ⟨fun y member => le_trans (bounds.le_high y member) (le_of_lt above),
      List.forall_mem_singleton.mpr (le_refl_of_known (known_of_lt above).2)⟩

theorem lower (bounds : Bounds low high values) (below : x < low) : Bounds x high (values ++ [x]) where
  low_mem := List.mem_append_right _ (List.mem_singleton_self x)
  high_mem := List.mem_append_left _ bounds.high_mem
  low_le := List.forall_mem_append.mpr
    ⟨fun y member => le_trans (le_of_lt below) (bounds.low_le y member),
      List.forall_mem_singleton.mpr (le_refl_of_known (known_of_lt below).1)⟩
  le_high := List.forall_mem_append.mpr ⟨bounds.le_high,
    List.forall_mem_singleton.mpr (le_trans (le_of_lt below) bounds.low_le_high)⟩

theorem extend (bounds : Bounds low high values) (x : Float) :
    Bounds (Geo.extend x (low, high)).1 (Geo.extend x (low, high)).2 (values ++ known [x]) := by
  cases nan : x.isNaN with
  | true =>
    rw [extend_of_nan nan, known, List.filter_cons_of_neg (by rw [nan]; decide), List.filter_nil,
      List.append_nil]
    exact bounds
  | false =>
    rw [known_of_forall (List.forall_mem_singleton.mpr nan), Geo.extend]
    split
    · rename_i above
      exact bounds.raise above
    · rename_i not_above
      split
      · rename_i below
        exact bounds.lower below
      · rename_i not_below
        exact bounds.append_singleton
          (le_of_not_lt nan (bounds.isNaN_eq_false bounds.low_mem) not_below)
          (le_of_not_lt (bounds.isNaN_eq_false bounds.high_mem) nan not_above)

theorem foldl (bounds : Bounds low high values) (rest : List Float) :
    Bounds (rest.foldl (fun r x => Geo.extend x r) (low, high)).1
      (rest.foldl (fun r x => Geo.extend x r) (low, high)).2 (values ++ known rest) := by
  -- The range is that of any values so far, each of which the step keeps between its ends.
  induction rest generalizing low high values with
  | nil =>
    rw [known, List.filter_nil, List.append_nil]
    exact bounds
  | cons x rest ih =>
    have split : known (x :: rest) = known [x] ++ known rest := List.filter_append [x] rest
    rw [split, ← List.append_assoc]
    exact ih (bounds.extend x)

theorem ordered (bounds : Bounds low high values) :
    Bounds (Geo.ordered low high).1 (Geo.ordered low high).2 values := by
  rw [Geo.ordered]
  split
  · exact bounds
  · rename_i not_less
    have equal : high ≤ low := le_of_not_lt (bounds.isNaN_eq_false bounds.low_mem)
      (bounds.isNaN_eq_false bounds.high_mem) not_less
    exact ⟨bounds.high_mem, bounds.low_mem, fun x member => le_trans equal (bounds.low_le x member),
      fun x member => le_trans (bounds.le_high x member) equal⟩

theorem of_range {first : Float} (first_known : first.isNaN = false) (rest : List Float) :
    Bounds (range first rest).1 (range first rest).2 (known (first :: rest)) := by
  have start : known (first :: rest) = [first] ++ known rest := by
    rw [known, List.filter_cons_of_pos (by rw [first_known]; rfl)]
    rfl
  rw [start]
  exact (singleton first_known).foldl rest

theorem place_le (bounds : Bounds low high values) (member : x ∈ values) :
    place low ≤ place x ∧ place x ≤ place high := by
  have known := bounds.isNaN_eq_false member
  have below := bounds.low_le x member
  have above := bounds.le_high x member
  rw [le_iff_place (bounds.isNaN_eq_false bounds.low_mem) known] at below
  rw [le_iff_place known (bounds.isNaN_eq_false bounds.high_mem)] at above
  exact ⟨below, above⟩

theorem within (bounds : Bounds low high values) (wider : Bounds low' high' others)
    (found : ∀ x ∈ values, ∃ y ∈ others, place x = place y) :
    place low' ≤ place low ∧ place high ≤ place high' := by
  obtain ⟨first, first_mem, low_eq⟩ := found low bounds.low_mem
  obtain ⟨last, last_mem, high_eq⟩ := found high bounds.high_mem
  rw [low_eq, high_eq]
  exact ⟨(wider.place_le first_mem).1, (wider.place_le last_mem).2⟩

theorem alike (bounds : Bounds low high values) (other : Bounds low' high' others)
    (same : SamePlaces values others) : Alike low low' ∧ Alike high high' := by
  obtain ⟨low_le, high_le⟩ := bounds.within other same.forth
  obtain ⟨le_low, le_high⟩ := other.within bounds same.back
  exact ⟨alike_of_place (Int.le_antisymm le_low low_le),
    alike_of_place (Int.le_antisymm high_le le_high)⟩

end Bounds

theorem Point.hasNaN_eq_false_iff {p : Point} :
    p.hasNaN = false ↔ p.longitude.isNaN = false ∧ p.latitude.isNaN = false := Bool.or_eq_false_iff

theorem isNaN_nan : nan.isNaN = true := by decide +kernel

theorem not_distance_le_of_nan {a : Point} (unknown : a.hasNaN = true) (b : Point) (limit : Float) :
    ¬ a.distance b ≤ limit := by
  rw [Point.distance, unknown, Bool.true_or, if_pos rfl]
  intro le
  exact Bool.false_ne_true ((known_of_le le).1.symm.trans isNaN_nan)

/-- Points whose coordinates compare as equal. They can differ in the signs of zeros. -/
def Point.Coincides (p q : Point) : Prop :=
  (p.longitude == q.longitude) = true ∧ (p.latitude == q.latitude) = true

instance (p q : Point) : Decidable (p.Coincides q) := inferInstanceAs (Decidable (_ ∧ _))

theorem Point.Coincides.place_eq {p q : Point} (same : p.Coincides q) :
    place p.longitude = place q.longitude ∧ place p.latitude = place q.latitude := by
  obtain ⟨longitude, latitude⟩ := same
  obtain ⟨known_longitude, other_longitude⟩ := known_of_beq longitude
  obtain ⟨known_latitude, other_latitude⟩ := known_of_beq latitude
  exact ⟨(beq_iff_place known_longitude other_longitude).mp longitude,
    (beq_iff_place known_latitude other_latitude).mp latitude⟩

theorem Point.Coincides.known {p q : Point} (same : p.Coincides q) : p.hasNaN = false := by
  rw [Point.hasNaN_eq_false_iff]
  exact ⟨(known_of_beq same.1).1, (known_of_beq same.2).1⟩

structure SamePoints (points others : List Point) : Prop where
  forth : ∀ p ∈ points, ∃ q ∈ others, p.Coincides q
  back : ∀ q ∈ others, ∃ p ∈ points, q.Coincides p

theorem SamePoints.places {points others : List Point} (same : SamePoints points others)
    {coordinate : Point → Float}
    (placed : ∀ p q : Point, p.Coincides q → place (coordinate p) = place (coordinate q)) :
    SamePlaces (points.map coordinate) (others.map coordinate) := by
  constructor <;> rw [List.forall_mem_map] <;> intro p member
  · obtain ⟨q, found, coincides⟩ := same.forth p member
    exact ⟨_, List.mem_map_of_mem found, placed p q coincides⟩
  · obtain ⟨q, found, coincides⟩ := same.back p member
    exact ⟨_, List.mem_map_of_mem found, placed p q coincides⟩

namespace Box

def Contains (b : Box) (p : Point) : Prop :=
  b.west ≤ p.longitude ∧ p.longitude ≤ b.east ∧ b.south ≤ p.latitude ∧ p.latitude ≤ b.north

instance (b : Box) (p : Point) : Decidable (b.Contains p) := inferInstanceAs (Decidable (_ ∧ _))

/-- A box around all of some points with one of them on each side. -/
structure Tightest (b : Box) (points : List Point) : Prop where
  contains : ∀ p ∈ points, b.Contains p
  west : ∃ p ∈ points, p.longitude = b.west
  east : ∃ p ∈ points, p.longitude = b.east
  south : ∃ p ∈ points, p.latitude = b.south
  north : ∃ p ∈ points, p.latitude = b.north

structure Spans (b : Box) (longitudes latitudes : List Float) : Prop where
  longitudes : Bounds b.west b.east longitudes
  latitudes : Bounds b.south b.north latitudes

theorem Tightest.least {b other : Box} {points : List Point} (tightest : b.Tightest points)
    (around : ∀ p ∈ points, other.Contains p) :
    other.west ≤ b.west ∧ b.east ≤ other.east ∧
      other.south ≤ b.south ∧ b.north ≤ other.north := by
  obtain ⟨p, p_mem, west⟩ := tightest.west
  obtain ⟨q, q_mem, east⟩ := tightest.east
  obtain ⟨r, r_mem, south⟩ := tightest.south
  obtain ⟨s, s_mem, north⟩ := tightest.north
  rw [← west, ← east, ← south, ← north]
  exact ⟨(around p p_mem).1, (around q q_mem).2.1, (around r r_mem).2.2.1, (around s s_mem).2.2.2⟩

theorem tightest_iff_spans {b : Box} {points : List Point} : b.Tightest points ↔
    b.Spans (points.map Point.longitude) (points.map Point.latitude) := by
  constructor
  · intro tightest
    have contains := tightest.contains
    exact ⟨⟨List.mem_map.mpr tightest.west, List.mem_map.mpr tightest.east,
        List.forall_mem_map.mpr fun p member => (contains p member).1,
        List.forall_mem_map.mpr fun p member => (contains p member).2.1⟩,
      ⟨List.mem_map.mpr tightest.south, List.mem_map.mpr tightest.north,
        List.forall_mem_map.mpr fun p member => (contains p member).2.2.1,
        List.forall_mem_map.mpr fun p member => (contains p member).2.2.2⟩⟩
  · rintro ⟨longitudes, latitudes⟩
    have sides := longitudes.low_le
    refine ⟨?_, List.mem_map.mp longitudes.low_mem, List.mem_map.mp longitudes.high_mem,
      List.mem_map.mp latitudes.low_mem, List.mem_map.mp latitudes.high_mem⟩
    intro p member
    exact ⟨longitudes.low_le _ (List.mem_map_of_mem member),
      longitudes.le_high _ (List.mem_map_of_mem member),
      latitudes.low_le _ (List.mem_map_of_mem member),
      latitudes.le_high _ (List.mem_map_of_mem member)⟩

theorem enclosing?_cons (p : Point) (rest : List Point) : enclosing? (p :: rest) =
    some ⟨(ordered (range p.longitude (rest.map Point.longitude)).1
        (range p.longitude (rest.map Point.longitude)).2).1,
      (ordered (range p.latitude (rest.map Point.latitude)).1
        (range p.latitude (rest.map Point.latitude)).2).1,
      (ordered (range p.longitude (rest.map Point.longitude)).1
        (range p.longitude (rest.map Point.longitude)).2).2,
      (ordered (range p.latitude (rest.map Point.latitude)).1
        (range p.latitude (rest.map Point.latitude)).2).2⟩ := rfl

theorem enclosing?_eq_none_iff {points : List Point} : enclosing? points = none ↔ points = [] := by
  cases points with
  | nil => exact iff_of_true rfl rfl
  | cons p rest =>
    rw [enclosing?_cons]
    exact iff_of_false (Option.some_ne_none _) (List.cons_ne_nil p rest)

theorem enclosing?_of_known {p : Point} (first : p.hasNaN = false) (rest : List Point) :
    ∃ box, enclosing? (p :: rest) = some box ∧
      box.Spans (known ((p :: rest).map Point.longitude)) (known ((p :: rest).map Point.latitude)) := by
  obtain ⟨longitude, latitude⟩ := Point.hasNaN_eq_false_iff.mp first
  exact ⟨_, enclosing?_cons p rest, (Bounds.of_range longitude _).ordered,
    (Bounds.of_range latitude _).ordered⟩

theorem enclosing?_of_nan {p : Point} (nan : p.hasNaN = true) (rest : List Point) :
    ∃ box, enclosing? (p :: rest) = some box ∧ box.southWest.hasNaN = true := by
  refine ⟨_, enclosing?_cons p rest, ?_⟩
  rcases (Bool.or_eq_true _ _).mp nan with longitude | latitude
  · rw [range_of_nan longitude, ordered_of_nan longitude]
    exact (Bool.or_eq_true _ _).mpr (.inl longitude)
  · rw [range_of_nan latitude, ordered_of_nan latitude]
    exact (Bool.or_eq_true _ _).mpr (.inr latitude)

theorem Spans.diagonal_eq {b other : Box} {longitudes latitudes longitudes' latitudes' : List Float}
    (spans : b.Spans longitudes latitudes) (other_spans : other.Spans longitudes' latitudes')
    (same : SamePlaces longitudes longitudes') (same' : SamePlaces latitudes latitudes') :
    b.diagonal = other.diagonal := by
  obtain ⟨west, east⟩ := spans.longitudes.alike other_spans.longitudes same
  obtain ⟨south, north⟩ := spans.latitudes.alike other_spans.latitudes same'
  exact distance_congr ⟨west, south⟩ ⟨east, north⟩

theorem Tightest.diagonal_eq {b other : Box} {points others : List Point} (tightest : b.Tightest points)
    (other_tightest : other.Tightest others) (same : SamePoints points others) :
    b.diagonal = other.diagonal :=
  (tightest_iff_spans.mp tightest).diagonal_eq (tightest_iff_spans.mp other_tightest)
    (same.places fun _ _ coincides => coincides.place_eq.1)
    (same.places fun _ _ coincides => coincides.place_eq.2)

end Box
end Thermals.Geo
