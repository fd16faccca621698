import Thermals.Ron.Name
import Thermals.Number.Literal
import Thermals.Number.Hex

namespace Thermals.Ron

open Number

def isFloatChar (c : Char) : Bool :=
  c.isDigit || c == 'e' || c == 'E' || c == '.' || c == '+' || c == '-' || c == '_'

def isIntegerChar (c : Char) : Bool := (hexValue? c).isSome || c == '_'

/-- Can an underscore stand behind `c`? A sign leaves that as it was before. -/
def allowsUnderscore (before : Bool) (c : Char) : Bool :=
  if c.isDigit || c == 'e' || c == 'E' then true else if c == '.' then false else before

def withoutUnderscores? (allowed : Bool) : List Char → Option (List Char)
  | [] => some []
  | c :: rest =>
    if c = '_' then if allowed then withoutUnderscores? allowed rest else none
    else (withoutUnderscores? (allowsUnderscore allowed c) rest).map (c :: ·)

def wholeOfBase? (base : Nat) (digits : List Char) : Option Nat :=
  (digits.filter (· != '_')).foldlM (fun value c => do
    let digit ← hexValue? c
    if digit < base then some (base * value + digit) else none) 0

/-- A type of whole numbers, those from `low` up to but not including `high`. -/
structure WholeType where
  name : String
  low : Int
  high : Int
  deriving DecidableEq, Repr

def signed (bits : Nat) : WholeType := ⟨"i" ++ toString bits, -Nat.pow 2 (bits - 1), Nat.pow 2 (bits - 1)⟩

def unsigned (bits : Nat) : WholeType := ⟨"u" ++ toString bits, 0, Nat.pow 2 bits⟩

def wholeTypes : List WholeType := [8, 16, 32, 64].map signed ++ [8, 16, 32, 64].map unsigned

namespace Reader

def lift {α : Type} (value : Option α) : Reader α := fun text => value.map (·, text)

def suffix (types : List String) : Reader String := do
  let found := String.ofList (← run continuesName)
  ensure (found == "" || types.contains found)
  return found

/-- Is there a minus sign? A plus sign is passed over. -/
def sign : Reader Bool := do
  if ← accept '-' then return true
  let _ ← accept '+'
  return false

def special (types : List String) : Reader Float := do
  let negative ← sign
  let found := String.ofList (← run continuesName)
  let reads (word : String) : Bool := found == word || types.any (fun type => found == word ++ type)
  if reads "inf" then return infinity negative
  ensure (reads "NaN")
  return nan

def fraction (types : List String) : Reader Float := do
  let found ← nonempty isFloatChar
  let value ← lift ((withoutUnderscores? false found).bind float?)
  let _ ← suffix types
  return value

def float (types : List String) : Reader Float := special types <|> fraction types

def base : Reader Nat :=
  (do chars ['0', 'x']; return 16) <|> (do chars ['0', 'o']; return 8) <|>
    (do chars ['0', 'b']; return 2) <|> pure 10

/-- A whole number of the type behind it, which is one of these, or without one in `range`. -/
def whole (types : List WholeType) (range : WholeType) : Reader Int := do
  let negative ← sign
  let base ← base
  let digits ← nonempty isIntegerChar
  ensure (digits.head? != some '_')
  let magnitude ← lift (wholeOfBase? base digits)
  let found ← suffix (types.map WholeType.name)
  let range := (types.find? (fun type => type.name == found)).getD range
  let value : Int := if negative then -magnitude else magnitude
  ensure (range.low ≤ value && value < range.high)
  return value

def unsigned64 : Reader Nat := do
  let type := unsigned 64
  return (← whole [type] type).toNat

/-- A number of any type. What is too large for whole numbers can still be a fraction. -/
def number : Reader Unit :=
  (do
    let _ ← whole wholeTypes ⟨"", (signed 64).low, (unsigned 64).high⟩
    ensure !(← ahead isFloatChar)) <|>
  (do
    let _ ← float ["f32", "f64"])

end Reader
end Thermals.Ron
