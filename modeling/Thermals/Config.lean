import Thermals.Time.Span
import Thermals.Number.Style

namespace Thermals

open Time Number

@[ext] structure Config where
  minTurnRate : Float := 15.0 -- degrees per second
  maxDiameter : Float := 1000.0 -- meters
  minCirclingDuration : Span := Span.ofSeconds 45
  maxRecentlyStoppedAge : Span := Span.ofMinutes 10
  positionHistorySize : Nat := 10
  deriving DecidableEq

inductive ConfigFault where
  | minTurnRate (rate : Float)
  | maxDiameter (diameter : Float)
  | positionHistorySize (size : Nat)
  | maxRecentlyStoppedAge
  deriving DecidableEq

def ConfigFault.message : ConfigFault → String
  | .minTurnRate rate => "min_turn_rate has to be a non-negative number: " ++ plain.write rate
  | .maxDiameter diameter => "max_diameter has to be positive: " ++ plain.write diameter
  | .positionHistorySize size =>
    "position_history_size needs at least 2 points for an area check: " ++ toString size
  | .maxRecentlyStoppedAge => "max_recently_stopped_age can't be zero"

namespace Config

def maxEntryAge (c : Config) : Span := c.maxRecentlyStoppedAge.double

/-- The first thing that is wrong, in the order of the fields but with the age last. -/
def fault? (c : Config) : Option ConfigFault :=
  if ¬ (c.minTurnRate.isFinite = true ∧ 0.0 ≤ c.minTurnRate) then some (.minTurnRate c.minTurnRate)
  else if ¬ (c.maxDiameter.isFinite = true ∧ 0.0 < c.maxDiameter) then
    some (.maxDiameter c.maxDiameter)
  else if c.positionHistorySize < 2 then some (.positionHistorySize c.positionHistorySize)
  else if c.maxRecentlyStoppedAge = Span.zero then some .maxRecentlyStoppedAge
  else none

def validate (c : Config) : Except ConfigFault Config :=
  match c.fault? with
  | some fault => .error fault
  | none => .ok c

def withMaxRecentlyStoppedAge (c : Config) (age : Span) : Except ConfigFault Config :=
  { c with maxRecentlyStoppedAge := age }.validate

end Config
end Thermals
