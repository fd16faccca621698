import Thermals.Geo.Degrees
import Thermals.Number.Style

namespace Thermals.Geo

open Number (fixed)

/-- A position in degrees. Positions that were read or observed are made by `ofDegrees`. -/
structure Point where
  longitude : Float
  latitude : Float
  deriving DecidableEq

namespace Point

def ofDegrees (longitude latitude : Float) : Point :=
  ⟨normalizeLongitude longitude, normalizeLatitude latitude⟩

def text (p : Point) : String := "[" ++ fixed 6 p.longitude ++ "," ++ fixed 6 p.latitude ++ "]"

def hasNaN (p : Point) : Bool := p.longitude.isNaN || p.latitude.isNaN

end Point

def earthRadius : Float := 6371008.8

def radians (degrees : Float) : Float := degrees * (3.14159265358979323846264338327950288 / 180.0)

-- At zero the sine, the cosine and the arcsine of angles in radians are exact: zero keeps its sign, and
-- its cosine is one.
def sine (x : Float) : Float := if x == 0.0 then x else x.sin

def cosine (x : Float) : Float := if x == 0.0 then 1.0 else x.cos

def arcsine (x : Float) : Float := if x == 0.0 then x else x.asin

def haversine (a b : Point) : Float :=
  let northing := sine (radians (b.latitude - a.latitude) / 2.0)
  let easting := sine (radians (b.longitude - a.longitude) / 2.0)
  let chord := northing * northing +
    cosine (radians a.latitude) * cosine (radians b.latitude) * (easting * easting)
  earthRadius * (2.0 * arcsine chord.sqrt)

def Point.distance (a b : Point) : Float :=
  if a.hasNaN || b.hasNaN then Number.nan else haversine a b

end Thermals.Geo
