namespace Thermals.Detection

/-- Meters per second throughout. Without samples the sum and the mean are zero. -/
structure Climb where
  sum : Float
  samples : Nat
  average : Float
  deriving DecidableEq

namespace Climb

def none : Climb := ⟨0.0, 0, 0.0⟩

def add (c : Climb) (rate : Float) : Climb :=
  let sum := c.sum + rate
  let samples := c.samples + 1
  ⟨sum, samples, sum / Float.ofNat samples⟩

def addKnown (c : Climb) : Option Float → Climb
  | some rate => c.add rate
  | .none => c

theorem samples_addKnown (c : Climb) (rate : Option Float) :
    (c.addKnown rate).samples = c.samples + rate.toList.length := by
  cases rate <;> rfl

end Climb
end Thermals.Detection
