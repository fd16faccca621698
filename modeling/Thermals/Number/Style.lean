import Thermals.Number.Shortest

namespace Thermals.Number

/-- What a form of output decides: when a number is written without an exponent, how a whole number
and a positive exponent look, and the words for what is not finite. -/
structure Style where
  positional : Int → Bool
  whole : String
  plus : String
  nan : String
  infinite : Bool → String

def zeroPad (width : Nat) (text : String) : String :=
  String.ofList (List.replicate (width - text.length) '0') ++ text

def withPoint (digits : Nat) (places : Nat) : String :=
  let text := (zeroPad (places + 1) (toString digits)).toList
  let split := text.length - places
  String.ofList (text.take split ++ '.' :: text.drop split)

namespace Style

def positionalText (style : Style) (d : Decimal) : String :=
  match d.exponent with
  | .ofNat e => toString (d.digits * Nat.pow 10 e) ++ style.whole
  | .negSucc e => withPoint d.digits (e + 1)

def exponentText (style : Style) (d : Decimal) (leading : Int) : String :=
  let digits := toString d.digits
  let mantissa := if digits.length = 1 then digits else withPoint d.digits (digits.length - 1)
  mantissa ++ "e" ++ (if 0 ≤ leading then style.plus else "") ++ toString leading

def magnitude (style : Style) (units : Nat) : String :=
  if units = 0 then "0" ++ style.whole
  else
    let d := shortest units
    let leading := d.exponent + (toString d.digits).length - 1
    if style.positional leading then style.positionalText d else style.exponentText d leading

def write (style : Style) (x : Float) : String :=
  match Exact.ofFloat x with
  | .nan => style.nan
  | .infinite negative => style.infinite negative
  | .finite negative units => (if negative then "-" else "") ++ style.magnitude units

end Style

/-- Numbers inside messages never have an exponent, and whole ones no point. -/
def plain : Style where
  positional _ := true
  whole := ""
  plus := ""
  nan := "NaN"
  infinite negative := if negative then "-inf" else "inf"

def roundDiv (num den : Nat) : Nat :=
  let quotient := num / den
  let twice := 2 * (num % den)
  if twice < den ∨ (twice = den ∧ quotient % 2 = 0) then quotient else quotient + 1

/-- `x` with a positive number of decimal places. A value that rounds to zero keeps its sign. -/
def fixed (places : Nat) (x : Float) : String :=
  match Exact.ofFloat x with
  | .finite negative units =>
    (if negative then "-" else "") ++ withPoint (roundDiv (units * Nat.pow 10 places) one) places
  | _ => plain.write x

end Thermals.Number
