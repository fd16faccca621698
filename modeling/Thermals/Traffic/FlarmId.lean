import Thermals.Text.Blank
import Thermals.Number.Hex

namespace Thermals.Traffic

open Text Number

@[ext] structure FlarmId where
  value : Nat
  value_lt : value < 0x1000000
  deriving DecidableEq

/-- Why a text is no id. Both cases hold the text without the blanks around it. -/
inductive IdFault where
  | notTwentyFourBit (text : String)
  | notHexadecimal (text : String)
  deriving DecidableEq, Repr

def IdFault.message : IdFault → String
  | .notTwentyFourBit text => "not a 24bit FLARM id: '" ++ text ++ "'"
  | .notHexadecimal text => "not a hex FLARM id: '" ++ text ++ "'"

namespace FlarmId

instance : LT FlarmId := ⟨fun a b => a.value < b.value⟩
instance (a b : FlarmId) : Decidable (a < b) := inferInstanceAs (Decidable (a.value < b.value))

theorem lt_def {a b : FlarmId} : a < b ↔ a.value < b.value := Iff.rfl

def ofNat? (n : Nat) : Option FlarmId := if h : n < 0x1000000 then some ⟨n, h⟩ else none

theorem readHex_bound {digits : List Char} {value : Nat} (short : byteLength digits ≤ 6)
    (h : readHex 0 digits = some value) : value < 0x1000000 := by
  have bound := readHex_lt h
  have length := length_le_byteLength digits
  calc value < (0 + 1) * Nat.pow 16 digits.length := bound
    _ ≤ 1 * Nat.pow 16 6 := Nat.mul_le_mul (by omega) (Nat.pow_le_pow_right (by omega) (by omega))
    _ = 0x1000000 := by decide

def parse (text : String) : Except IdFault FlarmId :=
  let digits := trim text.toList
  if short : digits = [] ∨ 6 < byteLength digits then
    .error (.notTwentyFourBit (String.ofList digits))
  else
    match h : readHex 0 digits with
    | some value => .ok ⟨value, readHex_bound (by omega) h⟩
    | none => .error (.notHexadecimal (String.ofList digits))

def text (id : FlarmId) : String := String.ofList (writeHex 6 id.value)

end FlarmId
end Thermals.Traffic
