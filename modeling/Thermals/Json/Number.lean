import Thermals.Number.Literal

namespace Thermals.Json

open Number

structure Numeral where
  negative : Bool
  whole : List Char
  places : List Char
  exponent : List Char
  deriving DecidableEq, Repr

def Numeral.ofText (text : List Char) : Numeral :=
  let (negative, text) := takeSign text
  let rest := text.dropWhile Char.isDigit
  let (places, exponent) := match rest with
    | '.' :: rest => (rest.takeWhile Char.isDigit, rest.dropWhile Char.isDigit)
    | rest => ([], rest)
  ⟨negative, text.takeWhile Char.isDigit, places, exponent⟩

/-- A whole number of 64 bits with the digits that were dropped, or less than none where places
were taken in. -/
structure Significand where
  value : Nat
  dropped : Int
  deriving DecidableEq, Repr

def gather (value : Nat) (digits : List Char) : Nat × List Char :=
  match digits with
  | [] => (value, [])
  | c :: rest =>
    let next := 10 * value + (c.toNat - '0'.toNat)
    if next < 0x10000000000000000 then gather next rest else (value, digits)

def Significand.ofDigits (whole places : List Char) : Significand :=
  let (value, dropped) := gather 0 whole
  let (value, ignored) := gather value places
  ⟨value, dropped.length - (places.length - ignored.length : Nat)⟩

def largestPower : Nat := 308

def scaleDown (x : Float) (exponent : Nat) : Float :=
  if exponent ≤ largestPower then x / ofDecimal 1 exponent
  else if x == 0.0 then x
  else scaleDown (x / ofDecimal 1 largestPower) (exponent - largestPower)
termination_by exponent
decreasing_by simp only [largestPower] at *; omega

def scaleUp? (x : Float) (exponent : Nat) : Option Float :=
  if exponent ≤ largestPower then
    let scaled := x * ofDecimal 1 exponent
    if scaled.isInf then none else some scaled
  else if x == 0.0 then some x
  else none

/-- Digits are gathered for as long as they fit into 64 bits, and that is then scaled by a power of ten:
with more than fifteen digits or a large exponent the outcome can be off by the last bit. -/
def Numeral.value? (n : Numeral) : Option Float := do
  let exponent ← exponent? n.exponent
  let significand := Significand.ofDigits n.whole n.places
  let magnitude ← match significand.dropped + exponent with
    | .ofNat e => scaleUp? (ofDecimal significand.value 0) e
    | .negSucc e => some (scaleDown (ofDecimal significand.value 0) (e + 1))
  return if n.negative then -magnitude else magnitude

end Thermals.Json
