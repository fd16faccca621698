import Thermals.Number.Binary64

namespace Thermals.Number

/-- `digits * 10 ^ exponent`. -/
structure Decimal where
  digits : Nat
  exponent : Int
  deriving DecidableEq, Repr

def onGrid (units : Nat) (grid : Int) : Nat × Nat :=
  match grid with
  | .ofNat g => (units, one * Nat.pow 10 g)
  | .negSucc g => (units * Nat.pow 10 (g + 1), one)

def leadingExponent (units : Nat) : Int :=
  let estimate := ((units.log2 : Int) - 1074) * 30103 / 100000
  let (above, unit) := onGrid units (estimate + 1)
  if unit ≤ above then estimate + 1
  else
    let (here, unit) := onGrid units estimate
    if unit ≤ here then estimate else estimate - 1

/-- Does `candidate * 10 ^ grid` lie between the midpoints to the neighbours of a value with so many units?
A midpoint counts if the last binary digit of the value is even. Both sides are scaled so that the gap to
the next value above has a whole quarter. -/
def readsBack (units : Nat) (grid : Int) (candidate : Nat) : Bool :=
  let (num, den) := onGrid units grid
  let gap := Nat.pow 2 (lastDigit units) * (num / units)
  let mantissa := units / Nat.pow 2 (lastDigit units)
  let below := if mantissa = leadingBit ∧ lastDigit units ≠ 0 then gap else 2 * gap
  let product := candidate * den
  let (distance, room) :=
    if num ≤ product then (4 * (product - num), 2 * gap) else (4 * (num - product), below)
  if mantissa % 2 = 0 then distance ≤ room else distance < room

/-- The nearest decimal with so many digits that reads back, if there is one. Of two equally near
ones the even one is taken. -/
def nearestWith (units : Nat) (leading : Int) (count : Nat) : Option Decimal :=
  let grid := leading - count + 1
  let (num, den) := onGrid units grid
  let lower := num / den
  let (low, high) := (readsBack units grid lower, readsBack units grid (lower + 1))
  let twice := 2 * (num % den)
  if low ∧ (¬ high ∨ twice < den ∨ (twice = den ∧ lower % 2 = 0)) then some ⟨lower, grid⟩
  else if high then some ⟨lower + 1, grid⟩
  else none

def Decimal.strip (d : Decimal) : Decimal :=
  if h : d.digits ≠ 0 ∧ d.digits % 10 = 0 then
    Decimal.strip ⟨d.digits / 10, d.exponent + 1⟩
  else d
termination_by d.digits
decreasing_by exact Nat.div_lt_self (by omega) (by omega)

/-- The shortest decimal that reads back as a positive number of units, the nearest one of those.
Seventeen digits always suffice. -/
def shortest (units : Nat) : Decimal :=
  let leading := leadingExponent units
  match (List.range 17).findSome? (fun count => nearestWith units leading (count + 1)) with
  | some d => d.strip
  | none => ⟨0, 0⟩

end Thermals.Number
