import Thermals.Number.Binary64

namespace Thermals.Geo

open Number

def degrees (n : Nat) : Nat := n * one

/-- An angle of less than a turn, brought into the range of a longitude: beyond half a turn it is
reached the other way round. -/
def longitudeUnits (negative : Bool) (rest : Nat) : Bool × Nat :=
  if degrees 180 < rest then (!negative, degrees 360 - rest) else (negative, rest)

/-- An angle of less than a turn, mirrored at the pole if it is beyond it. One mirroring serves up
to three right angles. -/
def latitudeUnits (negative : Bool) (rest : Nat) : Bool × Nat :=
  if degrees 90 < rest then
    if rest ≤ degrees 180 then (negative && rest != degrees 180, degrees 180 - rest)
    else (!negative, rest - degrees 180)
  else (negative, rest)

/-- Whole turns are taken off first, by a remainder that keeps the sign of the angle. Every step is exact,
so it is done on units, and only the outcome is stored. -/
def normalize (range : Bool → Nat → Bool × Nat) (angle : Float) : Float :=
  match Exact.ofFloat angle with
  | .finite negative units =>
    let (negative, rest) := range negative (units % degrees 360)
    ofUnits negative rest
  | _ => nan

def normalizeLongitude : Float → Float := normalize longitudeUnits

def normalizeLatitude : Float → Float := normalize latitudeUnits

end Thermals.Geo
