namespace Thermals.Number

/-- What a binary64 value stands for. A finite value is `units / one`, with the given sign. -/
inductive Exact where
  | nan
  | infinite (negative : Bool)
  | finite (negative : Bool) (units : Nat)
  deriving DecidableEq, Repr

def one : Nat := Nat.pow 2 1074

def leadingBit : Nat := 0x10000000000000

def infiniteWord : Nat := 0x7FF0000000000000

def signBit : Nat := 0x8000000000000000

def unitsOfWord (word : Nat) : Nat :=
  if word < leadingBit then word
  else (leadingBit + word % leadingBit) * Nat.pow 2 (word / leadingBit - 1)

/-- The weight of the last binary digit that a value of so many units has, as a power of two. -/
def lastDigit (units : Nat) : Nat := units.log2 - 52

def wordOfUnits (units : Nat) : Nat :=
  lastDigit units * leadingBit + units / Nat.pow 2 (lastDigit units)

def Exact.ofFloat (x : Float) : Exact :=
  let word := x.toBits.toNat
  let negative := decide (signBit ≤ word)
  let magnitude := word % signBit
  if magnitude < infiniteWord then .finite negative (unitsOfWord magnitude)
  else if magnitude = infiniteWord then .infinite negative
  else .nan

def ofUnits (negative : Bool) (units : Nat) : Float :=
  Float.ofBits (UInt64.ofNat ((if negative then signBit else 0) + wordOfUnits units))

def nan : Float := Float.ofBits 0x7FF8000000000000

def infinity (negative : Bool) : Float :=
  Float.ofBits (if negative then 0xFFF0000000000000 else 0x7FF0000000000000)

/-- No value is as large as ten to this power, and none but zero as small as one over it. -/
def decimalReach : Nat := 400

/-- The value of `digits * 10 ^ exponent`, rounded to the nearest binary64 value. What is beyond all
values either way is not worked out. -/
def ofDecimal (digits : Nat) (exponent : Int) : Float :=
  if digits = 0 then 0.0
  else
    match exponent with
    | .ofNat e => if decimalReach < e then infinity false else Float.ofScientific digits false e
    | .negSucc e =>
      if digits.log2 + decimalReach < e then 0.0 else Float.ofScientific digits true (e + 1)

def Exact.signedUnits? : Exact → Option Int
  | .finite negative units => some (if negative then -units else units)
  | _ => none

end Thermals.Number
