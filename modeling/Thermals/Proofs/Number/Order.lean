import Thermals.Proofs.Number.Zero

namespace Thermals.Number

open Float.Model

def directed (negative : Bool) (magnitude : Nat) : Int := if negative then -magnitude else magnitude

/-- Words are in the order of what they stand for, apart from the sign bit. -/
def place (x : Float) : Int :=
  directed (decide (signBit ≤ x.toBits.toNat)) (x.toBits.toNat % signBit)

/-- The value that belongs to a word other than that of NaN, as comparisons see it. -/
inductive Reads (negative : Bool) : Nat → UnpackedFloat → Prop
  | zero : Reads negative 0 (.zero (signOf negative))
  | finite {mantissa exponent : Nat} (pos : 0 < mantissa) (normal : Normal mantissa exponent) :
      Reads negative (exponent * leadingBit + mantissa)
        (.finite (signOf negative) mantissa ((exponent : Int) - 1074) pos)
  | infinite : Reads negative infiniteWord (.infinity (signOf negative))

theorem unpack_infinite (bits : BitVec Format.binary64.numBits)
    (large : ¬ bits.toNat % signBit < infiniteWord)
    (known : (UnpackedFloat.unpack _ bits).isNaN = false) :
    bits.toNat % signBit = infiniteWord ∧
      UnpackedFloat.unpack _ bits = .infinity (signOf (decide (signBit ≤ bits.toNat))) := by
  have exponent := toNat_exponent bits
  have mantissa := toNat_mantissa bits
  have full : UnpackedFloat.unpackExponent bits = -1#11 := by
    rw [← BitVec.toNat_inj, exponent]
    simp [leadingBit, signBit, infiniteWord] at large ⊢
    omega
  rw [UnpackedFloat.unpack] at known ⊢
  simp only [sign_eq] at known ⊢
  rw [if_pos full] at known ⊢
  split at known
  · rename_i none
    rw [if_pos none]
    rw [none] at mantissa
    simp [signBit, leadingBit, infiniteWord] at mantissa large ⊢
    omega
  · cases known

theorem reads_unpack (bits : BitVec Format.binary64.numBits)
    (known : (UnpackedFloat.unpack _ bits).isNaN = false) :
    Reads (decide (signBit ≤ bits.toNat)) (bits.toNat % signBit) (UnpackedFloat.unpack _ bits) := by
  by_cases small : bits.toNat % signBit < infiniteWord
  · have word := wordOfUnits_unitsOfWord (bits.toNat % signBit)
    rcases unpack_finite bits small with ⟨none, zero⟩ |
      ⟨mantissa, exponent, pos, value, units, normal⟩
    · have empty : bits.toNat % signBit = 0 := word.symm.trans (congrArg wordOfUnits none)
      rw [zero, empty]
      exact .zero
    · rw [value, ← word, units, normal.wordOfUnits_eq]
      exact .finite pos normal
  · obtain ⟨word, value⟩ := unpack_infinite bits small known
    rw [value, word]
    exact .infinite

theorem Normal.word_lt {mantissa exponent other shift : Nat} (normal : Normal mantissa exponent)
    (higher : Normal other shift) (less : exponent < shift) :
    exponent * leadingBit + mantissa < shift * leadingBit + other := by
  have short := normal.short
  have long := higher.full.resolve_left (by omega)
  simp only [leadingBit_eq]
  omega

theorem Normal.word_lt_infinite {mantissa exponent : Nat} (normal : Normal mantissa exponent) :
    exponent * leadingBit + mantissa < infiniteWord := by
  rw [← normal.wordOfUnits_eq]
  exact normal.wordOfUnits_lt

theorem Normal.compare_eq {mantissa exponent other shift : Nat} (normal : Normal mantissa exponent)
    (other_normal : Normal other shift) :
    (compare ((exponent : Int) - 1074) ((shift : Int) - 1074)).then (compare mantissa other) =
      compare ((exponent * leadingBit + mantissa : Nat) : Int) (shift * leadingBit + other : Nat) := by
  rcases Nat.lt_trichotomy exponent shift with less | rfl | greater
  · have first : compare ((exponent : Int) - 1074) ((shift : Int) - 1074) = .lt :=
      Int.compare_eq_lt.mpr (by omega)
    rw [first, Int.compare_eq_lt.mpr (Int.ofNat_lt.mpr (normal.word_lt other_normal less))]
    rfl
  · rw [Int.compare_eq_eq.mpr rfl, Ordering.eq_then, Nat.compare_eq_ite_lt, Int.compare_eq_ite_lt]
    simp only [Int.ofNat_lt, Nat.add_lt_add_iff_left]
  · have first : compare ((exponent : Int) - 1074) ((shift : Int) - 1074) = .gt :=
      Int.compare_eq_gt.mpr (by omega)
    rw [first, Int.compare_eq_gt.mpr (Int.ofNat_lt.mpr (other_normal.word_lt normal greater))]
    rfl

theorem directed_zero (negative : Bool) : directed negative 0 = 0 := by cases negative <;> rfl

theorem compare_zero_directed (negative : Bool) {magnitude : Nat} (pos : 0 < magnitude) :
    compare 0 (directed negative magnitude) = if negative then .gt else .lt := by
  cases negative with
  | false => exact Int.compare_eq_lt.mpr (Int.natCast_pos.mpr pos)
  | true => exact Int.compare_eq_gt.mpr (Int.neg_neg_of_pos (Int.natCast_pos.mpr pos))

theorem compare_directed_zero (negative : Bool) {magnitude : Nat} (pos : 0 < magnitude) :
    compare (directed negative magnitude) 0 = if negative then .lt else .gt := by
  rw [← Int.compare_swap, compare_zero_directed negative pos]
  cases negative <;> rfl

theorem compare_directed (negative other : Bool) {magnitude magnitude' : Nat}
    (pos : 0 < magnitude) (pos' : 0 < magnitude') :
    compare (directed negative magnitude) (directed other magnitude') =
      match negative, other with
      | false, false => compare (magnitude : Int) magnitude'
      | false, true => .gt
      | true, false => .lt
      | true, true => (compare (magnitude : Int) magnitude').swap := by
  cases negative <;> cases other <;> simp only [directed, if_true, Bool.false_eq_true, if_false]
  · rw [Int.compare_eq_gt]
    omega
  · rw [Int.compare_eq_lt]
    omega
  · rw [Int.compare_swap, Int.compare_eq_ite_lt, Int.compare_eq_ite_lt]
    simp only [Int.neg_lt_neg_iff]

theorem compare_of_reads {negative other : Bool} {word word' : Nat} {x y : UnpackedFloat}
    (first : Reads negative word x) (second : Reads other word' y) :
    x.compare y = some (compare (directed negative word) (directed other word')) := by
  have infinite_pos : 0 < infiniteWord := by decide
  -- Zero is in the same place with either sign, so these cases do not split on it.
  cases first with
  | zero =>
    rw [directed_zero]
    cases second with
    | zero =>
      rw [directed_zero]
      rfl
    | finite pos normal =>
      rw [compare_zero_directed other (Nat.add_pos_right _ pos)]
      cases other <;> rfl
    | infinite =>
      rw [compare_zero_directed other infinite_pos]
      cases other <;> rfl
  | finite pos normal =>
    cases second with
    | zero =>
      rw [directed_zero, compare_directed_zero negative (Nat.add_pos_right _ pos)]
      cases negative <;> rfl
    | finite other_pos other_normal =>
      rw [compare_directed negative other (Nat.add_pos_right _ pos) (Nat.add_pos_right _ other_pos),
        ← normal.compare_eq other_normal]
      cases negative <;> cases other <;> rfl
    | infinite =>
      rw [compare_directed negative other (Nat.add_pos_right _ pos) infinite_pos,
        Int.compare_eq_lt.mpr (Int.ofNat_lt.mpr normal.word_lt_infinite)]
      cases negative <;> cases other <;> rfl
  | infinite =>
    cases second with
    | zero =>
      rw [directed_zero, compare_directed_zero negative infinite_pos]
      cases negative <;> rfl
    | finite pos normal =>
      rw [compare_directed negative other infinite_pos (Nat.add_pos_right _ pos),
        Int.compare_eq_gt.mpr (Int.ofNat_lt.mpr normal.word_lt_infinite)]
      cases negative <;> cases other <;> rfl
    | infinite =>
      rw [compare_directed negative other infinite_pos infinite_pos, Int.compare_eq_eq.mpr rfl]
      cases negative <;> cases other <;> rfl

section Comparison

variable {x y z : Float}

theorem lt_iff_compare : x < y ↔ x.toModel.unpack.compare y.toModel.unpack = some .lt := by
  have order : x < y ↔ x.toModel.unpack.lt y.toModel.unpack = true := decide_eq_true_iff
  rw [order, UnpackedFloat.lt, beq_iff_eq]

theorem le_iff_compare :
    x ≤ y ↔ (x.toModel.unpack.compare y.toModel.unpack).any Ordering.isLE = true :=
  decide_eq_true_iff

theorem beq_iff_compare :
    (x == y) = true ↔ x.toModel.unpack.compare y.toModel.unpack = some .eq := by
  have order : (x == y) = x.toModel.unpack.beq y.toModel.unpack := rfl
  rw [order, UnpackedFloat.beq, beq_iff_eq]

theorem compare_unpack (known : x.isNaN = false) (other_known : y.isNaN = false) :
    x.toModel.unpack.compare y.toModel.unpack = some (compare (place x) (place y)) :=
  compare_of_reads (reads_unpack _ known) (reads_unpack _ other_known)

theorem lt_iff_place (known : x.isNaN = false) (other_known : y.isNaN = false) :
    x < y ↔ place x < place y := by
  rw [lt_iff_compare, compare_unpack known other_known, Option.some.injEq, Int.compare_eq_lt]

theorem le_iff_place (known : x.isNaN = false) (other_known : y.isNaN = false) :
    x ≤ y ↔ place x ≤ place y := by
  rw [le_iff_compare, compare_unpack known other_known, Option.any_some, Int.isLE_compare]

theorem beq_iff_place (known : x.isNaN = false) (other_known : y.isNaN = false) :
    (x == y) = true ↔ place x = place y := by
  rw [beq_iff_compare, compare_unpack known other_known, Option.some.injEq, Int.compare_eq_eq]

theorem unpack_of_nan (nan : x.isNaN = true) : x.toModel.unpack = .notANumber := by
  have unpacked : x.toModel.unpack.isNaN = true := nan
  cases value : x.toModel.unpack with
  | notANumber => rfl
  | zero => rw [value] at unpacked; cases unpacked
  | finite => rw [value] at unpacked; cases unpacked
  | infinity => rw [value] at unpacked; cases unpacked

theorem compare_of_nan (nan : x.isNaN = true ∨ y.isNaN = true) :
    x.toModel.unpack.compare y.toModel.unpack = none := by
  rcases nan with nan | nan <;> rw [unpack_of_nan nan]
  · rfl
  · cases x.toModel.unpack <;> rfl

theorem known_of_compare
    (compared : x.toModel.unpack.compare y.toModel.unpack ≠ none) :
    x.isNaN = false ∧ y.isNaN = false := by
  by_contra nan
  rw [not_and_or, Bool.not_eq_false, Bool.not_eq_false] at nan
  exact compared (compare_of_nan nan)

theorem known_of_lt (less : x < y) : x.isNaN = false ∧ y.isNaN = false := by
  rw [lt_iff_compare] at less
  apply known_of_compare
  rw [less]
  simp

theorem not_lt_of_nan (nan : x.isNaN = true ∨ y.isNaN = true) : ¬ x < y := by
  rw [lt_iff_compare, compare_of_nan nan]
  exact fun compared => nomatch compared

theorem known_of_le (le : x ≤ y) : x.isNaN = false ∧ y.isNaN = false := by
  rw [le_iff_compare] at le
  apply known_of_compare
  intro none
  rw [none] at le
  cases le

theorem known_of_beq (equal : (x == y) = true) : x.isNaN = false ∧ y.isNaN = false := by
  rw [beq_iff_compare] at equal
  apply known_of_compare
  rw [equal]
  simp

theorem le_refl_of_known (known : x.isNaN = false) : x ≤ x :=
  (le_iff_place known known).mpr (Int.le_refl _)

theorem le_trans (first : x ≤ y) (second : y ≤ z) : x ≤ z := by
  obtain ⟨known, middle⟩ := known_of_le first
  have last := (known_of_le second).2
  rw [le_iff_place known middle] at first
  rw [le_iff_place middle last] at second
  rw [le_iff_place known last]
  exact Int.le_trans first second

theorem le_of_not_lt (known : x.isNaN = false) (other_known : y.isNaN = false)
    (not_lt : ¬ x < y) : y ≤ x := by
  rw [lt_iff_place known other_known] at not_lt
  rw [le_iff_place other_known known]
  exact Int.not_lt.mp not_lt

theorem le_of_lt (less : x < y) : x ≤ y := by
  obtain ⟨known, other_known⟩ := known_of_lt less
  rw [lt_iff_place known other_known] at less
  rw [le_iff_place known other_known]
  exact Int.le_of_lt less

theorem eq_of_word (sign : signBit ≤ x.toBits.toNat ↔ signBit ≤ y.toBits.toNat)
    (magnitude : x.toBits.toNat % signBit = y.toBits.toNat % signBit) : x = y := by
  have bound : x.toBits.toNat < 2 ^ 64 := x.toBits.toNat_lt
  have other_bound : y.toBits.toNat < 2 ^ 64 := y.toBits.toNat_lt
  simp only [signBit] at sign magnitude
  rw [← Float.toBits_inj, ← UInt64.toNat_inj]
  omega

theorem eq_zero_of_magnitude (none : x.toBits.toNat % signBit = 0) :
    x = zero (decide (signBit ≤ x.toBits.toNat)) := by
  have sign (negative : Bool) : signBit ≤ (zero negative).toBits.toNat ↔ negative = true := by
    cases negative <;> decide +kernel
  have magnitude (negative : Bool) : (zero negative).toBits.toNat % signBit = 0 := by
    cases negative <;> decide +kernel
  apply eq_of_word
  · rw [sign, decide_eq_true_eq]
  · rw [none, magnitude]

theorem alike_of_place (same : place x = place y) : Alike x y := by
  -- No other place belongs to two words.
  by_cases none : x.toBits.toNat % signBit = 0 ∧ y.toBits.toNat % signBit = 0
  · rw [eq_zero_of_magnitude none.1, eq_zero_of_magnitude none.2]
    exact .zeros _ _
  · have equal : x = y := by
      simp only [place, directed, decide_eq_true_eq] at same
      by_cases sign : signBit ≤ x.toBits.toNat <;> by_cases other : signBit ≤ y.toBits.toNat <;>
        simp only [sign, other, if_true, if_false] at same
      · exact eq_of_word (by simp only [sign, other]) (by omega)
      · omega
      · omega
      · exact eq_of_word (by simp only [sign, other]) (by omega)
    rw [equal]
    exact .same y

end Comparison

end Thermals.Number
