import Thermals.Number.Binary64

namespace Thermals.Number

def ofDigits (value : Nat) (digits : List Char) : Nat :=
  digits.foldl (fun n c => 10 * n + (c.toNat - '0'.toNat)) value

def nat? (text : List Char) : Option Nat :=
  if text ≠ [] ∧ text.all Char.isDigit then some (ofDigits 0 text) else none

/-- Splits off a sign; `true` means a minus. -/
def takeSign : List Char → Bool × List Char
  | '-' :: rest => (true, rest)
  | '+' :: rest => (false, rest)
  | text => (false, text)

def int? (text : List Char) : Option Int :=
  let (negative, rest) := takeSign text
  (nat? rest).map fun n => if negative then -n else n

def exponent? : List Char → Option Int
  | [] => some 0
  | c :: rest => if c = 'e' ∨ c = 'E' then int? rest else none

/-- The value of a decimal fraction without a sign. Digits may be missing on one side of the point,
not on both. -/
def fraction? (text : List Char) : Option Float :=
  let whole := text.takeWhile Char.isDigit
  let rest := text.dropWhile Char.isDigit
  let (places, rest) := match rest with
    | '.' :: rest => (rest.takeWhile Char.isDigit, rest.dropWhile Char.isDigit)
    | rest => ([], rest)
  if whole = [] ∧ places = [] then none
  else (exponent? rest).map fun e => ofDecimal (ofDigits (ofDigits 0 whole) places) (e - places.length)

def special? (text : List Char) : Option Float :=
  match String.ofList (text.map Char.toLower) with
  | "inf" | "infinity" => some (infinity false)
  | "nan" => some nan
  | _ => none

def float? (text : List Char) : Option Float :=
  let (negative, rest) := takeSign text
  (special? rest <|> fraction? rest).map fun x => if negative then -x else x

end Thermals.Number
