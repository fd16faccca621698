import Thermals.Geo.Point
import Thermals.Proofs.Number.Zero

namespace Thermals.Geo

open Number

structure Point.Alike (p q : Point) : Prop where
  longitude : Number.Alike p.longitude q.longitude
  latitude : Number.Alike p.latitude q.latitude

def halfChord (degrees : Float) : Float :=
  sine (radians degrees / 2.0) * sine (radians degrees / 2.0)

theorem halfChord_congr {x y : Float} (alike : Alike x y) : halfChord x = halfChord y :=
  alike.eq_map halfChord (by decide +kernel)

theorem cosine_congr {x y : Float} (alike : Alike x y) : cosine (radians x) = cosine (radians y) :=
  alike.eq_map (fun x => cosine (radians x)) (by decide +kernel)

theorem isNaN_congr {x y : Float} (alike : Alike x y) : x.isNaN = y.isNaN :=
  alike.eq_map Float.isNaN (by decide +kernel)

theorem haversine_eq (a b : Point) : haversine a b =
    earthRadius * (2.0 * arcsine (halfChord (b.latitude - a.latitude) +
      cosine (radians a.latitude) * cosine (radians b.latitude) *
        halfChord (b.longitude - a.longitude)).sqrt) := rfl

theorem distance_congr {a b c d : Point} (first : a.Alike c) (second : b.Alike d) :
    a.distance b = c.distance d := by
  have known : a.hasNaN = c.hasNaN := by
    rw [Point.hasNaN, Point.hasNaN, isNaN_congr first.longitude, isNaN_congr first.latitude]
  have other_known : b.hasNaN = d.hasNaN := by
    rw [Point.hasNaN, Point.hasNaN, isNaN_congr second.longitude, isNaN_congr second.latitude]
  rw [Point.distance, Point.distance, known, other_known, haversine_eq, haversine_eq,
    halfChord_congr (second.latitude.sub first.latitude),
    halfChord_congr (second.longitude.sub first.longitude),
    cosine_congr first.latitude, cosine_congr second.latitude]

end Thermals.Geo
