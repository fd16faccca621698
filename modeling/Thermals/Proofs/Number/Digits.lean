import Mathlib.Algebra.Group.Nat.Defs
import Thermals.Number.Literal
import Thermals.Number.Style
import Thermals.Proofs.Text.Run
import Thermals.Text.Kinds

namespace Thermals.Number

open Text

theorem isDigit_bounds {c : Char} (digit : c.isDigit = true) : 48 ≤ c.toNat ∧ c.toNat ≤ 57 := by
  simp only [Char.isDigit, Bool.and_eq_true, decide_eq_true_eq] at digit
  exact ⟨UInt32.le_iff_toNat_le.mp digit.1, UInt32.le_iff_toNat_le.mp digit.2⟩

theorem ne_of_isDigit {c other : Char} (digit : c.isDigit = true) (differs : other.isDigit = false) :
    c ≠ other := by
  intro same
  rw [same, differs] at digit
  cases digit

theorem isDecimalDigit_of_isDigit {c : Char} (digit : c.isDigit = true) : isDecimalDigit c = true := by
  have bounds := isDigit_bounds digit
  rw [isDecimalDigit, if_pos (by omega), digit]

theorem isWord_of_isDigit {c : Char} (digit : c.isDigit = true) : isWord c = true := by
  simp [isWord, isDecimalDigit_of_isDigit digit]

structure IsNumeral (digits : List Char) : Prop where
  nonempty : digits ≠ []
  decimal : ∀ c ∈ digits, c.isDigit = true

theorem ofDigits_eq_ofDigitChars (value : Nat) (digits : List Char) :
    ofDigits value digits = Nat.ofDigitChars 10 digits value := rfl

theorem ofDigits_append (value : Nat) (digits more : List Char) :
    ofDigits value (digits ++ more) = ofDigits (ofDigits value digits) more := List.foldl_append

theorem ofDigits_eq_add (value : Nat) (digits : List Char) :
    ofDigits value digits = value * 10 ^ digits.length + ofDigits 0 digits := by
  rw [ofDigits_eq_ofDigitChars, Nat.ofDigitChars_eq_ofDigitChars_zero, Nat.mul_comm]
  rfl

theorem toList_toString (n : Nat) : (toString n).toList = Nat.toDigits 10 n := Nat.toList_repr

theorem isNumeral_toString (n : Nat) : IsNumeral (toString n).toList := by
  rw [toList_toString]
  constructor
  · exact Nat.toDigits_ne_nil
  · intro c member
    exact Nat.isDigit_of_mem_toDigits (by decide) (by decide) member

theorem ofDigits_toString (n : Nat) : ofDigits 0 (toString n).toList = n := by
  rw [toList_toString, ofDigits_eq_ofDigitChars, Nat.ofDigitChars_ten_toDigits]

namespace IsNumeral

variable {digits : List Char}

theorem nat?_eq (numeral : IsNumeral digits) : nat? digits = some (ofDigits 0 digits) := by
  have decimal := List.all_eq_true.mpr numeral.decimal
  rw [nat?, if_pos ⟨numeral.nonempty, decimal⟩]

theorem takeSign_eq (numeral : IsNumeral digits) : takeSign digits = (false, digits) := by
  cases digits with
  | nil => exact absurd rfl numeral.nonempty
  | cons c rest =>
    have digit := numeral.decimal c List.mem_cons_self
    unfold takeSign
    split
    · rename_i same
      exact absurd (List.cons_eq_cons.mp same).1 (ne_of_isDigit digit rfl)
    · rename_i same
      exact absurd (List.cons_eq_cons.mp same).1 (ne_of_isDigit digit rfl)
    · rfl

theorem int?_eq (numeral : IsNumeral digits) : int? digits = some ((ofDigits 0 digits : Nat) : Int) := by
  simp [int?, numeral.takeSign_eq, numeral.nat?_eq]

end IsNumeral

theorem toList_zeroPad (width : Nat) (text : String) :
    (zeroPad width text).toList = List.replicate (width - text.length) '0' ++ text.toList := by
  rw [zeroPad, String.toList_append, String.toList_ofList]

theorem isDigit_of_mem_zeroPad {width n : Nat} {c : Char}
    (member : c ∈ (zeroPad width (toString n)).toList) : c.isDigit = true := by
  rw [toList_zeroPad, List.mem_append, List.mem_replicate] at member
  rcases member with ⟨-, rfl⟩ | member
  · rfl
  · exact (isNumeral_toString n).decimal c member

theorem ofDigits_zeroPad (width n : Nat) : ofDigits 0 (zeroPad width (toString n)).toList = n := by
  rw [toList_zeroPad, ofDigits_append, ofDigits_eq_ofDigitChars 0, Nat.ofDigitChars_replicate_zero,
    Nat.mul_zero, ofDigits_toString]

theorem toList_withPoint (n places : Nat) :
    ∃ whole fraction, (withPoint n places).toList = whole ++ '.' :: fraction ∧ IsNumeral whole ∧
      fraction.length = places ∧ (∀ c ∈ fraction, c.isDigit = true) ∧
      ofDigits 0 (whole ++ fraction) = n := by
  let digits := (zeroPad (places + 1) (toString n)).toList
  have long : places < digits.length := by
    simp only [digits, toList_zeroPad, List.length_append, List.length_replicate, String.length_toList]
    omega
  have decimal : ∀ c ∈ digits, c.isDigit = true := fun c member => isDigit_of_mem_zeroPad member
  refine ⟨digits.take (digits.length - places), digits.drop (digits.length - places), ?_, ⟨?_, ?_⟩,
    ?_, ?_, ?_⟩
  · rw [withPoint, String.toList_ofList]
  · rw [Ne, List.take_eq_nil_iff]
    intro empty
    rcases empty with none | none
    · omega
    · rw [none] at long
      exact Nat.not_lt_zero _ long
  · intro c member
    exact decimal c (List.mem_of_mem_take member)
  · rw [List.length_drop]
    omega
  · intro c member
    exact decimal c (List.mem_of_mem_drop member)
  · rw [List.take_append_drop]
    exact ofDigits_zeroPad (places + 1) n

def isDecimalChar (c : Char) : Bool := c.isDigit || c == '.' || c == 'e' || c == '+' || c == '-'

structure IsMagnitude (text : List Char) : Prop where
  starts : OpensWith Char.isDigit text
  chars : ∀ c ∈ text, isDecimalChar c = true

theorem isDecimalChar_of_isDigit {c : Char} (digit : c.isDigit = true) : isDecimalChar c = true := by
  simp [isDecimalChar, digit]

theorem IsNumeral.isMagnitude {digits : List Char} (numeral : IsNumeral digits) :
    IsMagnitude digits := by
  constructor
  · cases digits with
    | nil => exact absurd rfl numeral.nonempty
    | cons c rest => exact numeral.decimal c List.mem_cons_self
  · intro c member
    exact isDecimalChar_of_isDigit (numeral.decimal c member)

theorem IsMagnitude.append {text more : List Char} (magnitude : IsMagnitude text)
    (chars : ∀ c ∈ more, isDecimalChar c = true) : IsMagnitude (text ++ more) := by
  obtain ⟨c, rest, digit, rfl⟩ := opensWith_iff.mp magnitude.starts
  constructor
  · exact digit
  · intro c member
    rcases List.mem_append.mp member with member | member
    · exact magnitude.chars c member
    · exact chars c member

theorem isMagnitude_withPoint (n places : Nat) : IsMagnitude (withPoint n places).toList := by
  obtain ⟨whole, fraction, written, numeral, -, decimal, -⟩ := toList_withPoint n places
  rw [written]
  apply numeral.isMagnitude.append
  intro c member
  rcases List.mem_cons.mp member with rfl | member
  · rfl
  · exact isDecimalChar_of_isDigit (decimal c member)

theorem isDecimalChar_of_mem_toString {i : Int} {c : Char} (member : c ∈ (toString i).toList) :
    isDecimalChar c = true := by
  have natural {n : Nat} (member : c ∈ (toString n).toList) : isDecimalChar c = true :=
    isDecimalChar_of_isDigit ((isNumeral_toString n).decimal c member)
  cases i with
  | ofNat n => exact natural member
  | negSucc n =>
    have split : (toString (Int.negSucc n)).toList = '-' :: (toString (n + 1)).toList := by
      change ("-" ++ (n + 1).repr).toList = '-' :: (n + 1).repr.toList
      rw [String.toList_append]
      rfl
    rw [split] at member
    rcases List.mem_cons.mp member with rfl | member
    · rfl
    · exact natural member

namespace Style

variable {style : Style} (whole : ∀ c ∈ style.whole.toList, isDecimalChar c = true)
  (plus : ∀ c ∈ style.plus.toList, isDecimalChar c = true)

include whole in
theorem isMagnitude_positionalText (d : Decimal) : IsMagnitude (style.positionalText d).toList := by
  rw [positionalText]
  split
  · rw [String.toList_append]
    exact (isNumeral_toString _).isMagnitude.append whole
  · exact isMagnitude_withPoint _ _

include plus in
theorem isMagnitude_exponentText (d : Decimal) (leading : Int) :
    IsMagnitude (style.exponentText d leading).toList := by
  have mark : ∀ c ∈ "e".toList, isDecimalChar c = true :=
    List.all_eq_true.mp (by decide)
  have sign : ∀ c ∈ (if 0 ≤ leading then style.plus else "").toList, isDecimalChar c = true := by
    split
    · exact plus
    · simp
  have mantissa (width : Nat) : IsMagnitude (if width = 1 then toString d.digits
      else withPoint d.digits (width - 1)).toList := by
    split
    · exact (isNumeral_toString _).isMagnitude
    · exact isMagnitude_withPoint _ _
  simp only [exponentText, String.toList_append]
  exact (((mantissa _).append mark).append sign).append fun _ => isDecimalChar_of_mem_toString

include whole plus in
theorem isMagnitude_magnitude (units : Nat) : IsMagnitude (style.magnitude units).toList := by
  rw [magnitude]
  split
  · rw [String.toList_append]
    exact (isNumeral_toString 0).isMagnitude.append whole
  · simp only []
    split
    · exact isMagnitude_positionalText whole _
    · exact isMagnitude_exponentText plus _ _

include whole plus in
theorem toList_write {x : Float} {negative : Bool} {units : Nat}
    (exact : Exact.ofFloat x = .finite negative units) : ∃ text, IsMagnitude text ∧
      ((style.write x).toList = text ∨ (style.write x).toList = '-' :: text) := by
  refine ⟨_, isMagnitude_magnitude whole plus units, ?_⟩
  rw [write, exact]
  simp only [String.toList_append]
  cases negative with
  | false => exact Or.inl rfl
  | true => exact Or.inr rfl

end Style
end Thermals.Number
