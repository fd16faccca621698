import Thermals.Number.Hex

namespace Thermals.Json

open Number

def shortEscape? (c : Char) : Option Char :=
  match c.toNat with
  | 8 => some 'b'
  | 9 => some 't'
  | 10 => some 'n'
  | 12 => some 'f'
  | 13 => some 'r'
  | _ => none

def isControl (c : Char) : Bool := c.toNat < 0x20

def escape (c : Char) : List Char :=
  if c = '"' ∨ c = '\\' then ['\\', c]
  else
    match shortEscape? c with
    | some letter => ['\\', letter]
    | none =>
      if isControl c then
        ['\\', 'u', '0', '0', Nat.digitChar (c.toNat / 16), Nat.digitChar (c.toNat % 16)]
      else [c]

def escaped (text : String) : List Char := text.toList.flatMap escape

def letterValue? (c : Char) : Option Nat :=
  match c with
  | '"' | '\\' | '/' => some c.toNat
  | 'b' => some 8
  | 't' => some 9
  | 'n' => some 10
  | 'f' => some 12
  | 'r' => some 13
  | _ => none

/-- The code points and, where four digits stand for half a character, code units of a written
string. -/
def units? : List Char → Option (List Nat)
  | [] => some []
  | '\\' :: 'u' :: a :: b :: c :: d :: rest => do
    let unit ← readHex 0 [a, b, c, d]
    return unit :: (← units? rest)
  | '\\' :: c :: rest => do
    let value ← letterValue? c
    return value :: (← units? rest)
  | c :: rest => (units? rest).map (c.toNat :: ·)

def isHighHalf (unit : Nat) : Bool := 0xD800 ≤ unit && unit < 0xDC00

def isLowHalf (unit : Nat) : Bool := 0xDC00 ≤ unit && unit < 0xE000

def joinHalves (high low : Nat) : Char :=
  Char.ofNat (0x10000 + (high - 0xD800) * 0x400 + (low - 0xDC00))

/-- The characters of some units. Half a character cannot stand alone. -/
def characters? : List Nat → Option (List Char)
  | [] => some []
  | [unit] => if isHighHalf unit || isLowHalf unit then none else some [Char.ofNat unit]
  | unit :: next :: rest =>
    if isHighHalf unit then
      if isLowHalf next then (characters? rest).map (joinHalves unit next :: ·) else none
    else if isLowHalf unit then none
    else (characters? (next :: rest)).map (Char.ofNat unit :: ·)

def unescaped? (written : List Char) : Option String :=
  ((units? written).bind characters?).map String.ofList

end Thermals.Json
