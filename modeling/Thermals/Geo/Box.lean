import Thermals.Geo.Point

namespace Thermals.Geo

open Number (fixed)

/-- A box along meridians and parallels, which does not span the antimeridian. -/
structure Box where
  west : Float
  south : Float
  east : Float
  north : Float
  deriving DecidableEq

/-- The lesser and the greater of two coordinates; two that do not compare as less change places. -/
def ordered (a b : Float) : Float × Float := if a < b then (a, b) else (b, a)

/-- The range from `low` to `high`, extended to hold `x`. A coordinate that is NaN extends nothing,
and a range that starts from NaN stays so. -/
def extend (x : Float) : Float × Float → Float × Float
  | (low, high) => if high < x then (low, x) else if x < low then (x, high) else (low, high)

def range (first : Float) (rest : List Float) : Float × Float :=
  rest.foldl (fun r x => extend x r) (first, first)

namespace Box

def ofCorners (a b : Point) : Box :=
  let (west, east) := ordered a.longitude b.longitude
  let (south, north) := ordered a.latitude b.latitude
  ⟨west, south, east, north⟩

def enclosing? : List Point → Option Box
  | [] => none
  | p :: rest =>
    let (west, east) := range p.longitude (rest.map Point.longitude)
    let (south, north) := range p.latitude (rest.map Point.latitude)
    some (ofCorners ⟨west, south⟩ ⟨east, north⟩)

def southWest (b : Box) : Point := ⟨b.west, b.south⟩

def northEast (b : Box) : Point := ⟨b.east, b.north⟩

def diagonal (b : Box) : Float := b.southWest.distance b.northEast

def text (b : Box) : String :=
  "[" ++ fixed 6 b.west ++ "," ++ fixed 6 b.south ++ "," ++ fixed 6 b.east ++ "," ++
    fixed 6 b.north ++ "]"

end Box
end Thermals.Geo
