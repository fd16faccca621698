import Mathlib
import Thermals.Number.Binary64

namespace Thermals.Number

open Float.Model

theorem leadingBit_eq : leadingBit = 2 ^ 52 := by decide

theorem log2_lt_of_lt {n k : Nat} (less : n < 2 ^ k) (pos : 0 < k) : n.log2 < k := by
  by_cases zero : n = 0
  · simpa [zero] using pos
  · exact (Nat.log2_lt zero).mpr less

theorem lastDigit_of_short {units : Nat} (short : units < 2 ^ 53) : lastDigit units = 0 := by
  have less := log2_lt_of_lt short (by decide)
  unfold lastDigit
  omega

theorem lastDigit_shifted {mantissa : Nat} (low : 2 ^ 52 ≤ mantissa) (high : mantissa < 2 ^ 53)
    (shift : Nat) : lastDigit (mantissa * 2 ^ shift) = shift := by
  have pos : 0 < 2 ^ shift := Nat.two_pow_pos shift
  have nonzero : mantissa * 2 ^ shift ≠ 0 := Nat.ne_of_gt (Nat.mul_pos (by omega) pos)
  have log : (mantissa * 2 ^ shift).log2 = 52 + shift := by
    rw [Nat.log2_eq_iff nonzero, Nat.pow_add, Nat.add_right_comm, Nat.pow_add]
    exact ⟨Nat.mul_le_mul_right _ low, Nat.mul_lt_mul_of_pos_right high pos⟩
  unfold lastDigit
  omega

/-- A mantissa of at most 53 binary digits, which has all of them unless its last one is the least unit
of all values, and an exponent in the range of those of finite values. -/
structure Normal (mantissa exponent : Nat) : Prop where
  short : mantissa < 2 ^ 53
  full : exponent = 0 ∨ 2 ^ 52 ≤ mantissa
  finite : exponent ≤ 2045

namespace Normal

variable {mantissa exponent other shift : Nat}

theorem lastDigit_eq (normal : Normal mantissa exponent) :
    lastDigit (mantissa * 2 ^ exponent) = exponent := by
  rcases normal.full with zero | long
  · rw [zero, Nat.pow_zero, Nat.mul_one]
    exact lastDigit_of_short normal.short
  · exact lastDigit_shifted long normal.short exponent

theorem wordOfUnits_eq (normal : Normal mantissa exponent) :
    wordOfUnits (mantissa * 2 ^ exponent) = exponent * leadingBit + mantissa := by
  rw [wordOfUnits, normal.lastDigit_eq, Nat.pow_eq, Nat.mul_div_cancel _ (Nat.two_pow_pos _)]

theorem unitsOfWord_wordOfUnits (normal : Normal mantissa exponent) :
    unitsOfWord (wordOfUnits (mantissa * 2 ^ exponent)) = mantissa * 2 ^ exponent := by
  have short := normal.short
  rw [normal.wordOfUnits_eq, unitsOfWord, leadingBit_eq]
  by_cases long : 2 ^ 52 ≤ mantissa
  · have quotient : (exponent * 2 ^ 52 + mantissa) / 2 ^ 52 - 1 = exponent := by omega
    have rest : 2 ^ 52 + (exponent * 2 ^ 52 + mantissa) % 2 ^ 52 = mantissa := by omega
    rw [if_neg (by omega), quotient, rest, Nat.pow_eq]
  · have zero : exponent = 0 := normal.full.resolve_right long
    rw [if_pos (by omega), zero, Nat.zero_mul, Nat.zero_add, Nat.pow_zero, Nat.mul_one]

theorem wordOfUnits_lt (normal : Normal mantissa exponent) :
    wordOfUnits (mantissa * 2 ^ exponent) < infiniteWord := by
  have short := normal.short
  have finite := normal.finite
  rw [normal.wordOfUnits_eq]
  simp only [leadingBit, infiniteWord]
  omega

theorem lt_of_exponent_lt (normal : Normal mantissa exponent) (higher : Normal other shift)
    (less : exponent < shift) : mantissa * 2 ^ exponent < other * 2 ^ shift := by
  have long : 2 ^ 52 ≤ other := higher.full.resolve_left (by omega)
  have step : 2 ^ 53 * 2 ^ exponent ≤ 2 ^ 52 * 2 ^ shift := by
    rw [← Nat.pow_add, ← Nat.pow_add]
    exact Nat.pow_le_pow_right (by decide) (by omega)
  calc mantissa * 2 ^ exponent
      < 2 ^ 53 * 2 ^ exponent := Nat.mul_lt_mul_of_pos_right normal.short (Nat.two_pow_pos _)
    _ ≤ 2 ^ 52 * 2 ^ shift := step
    _ ≤ other * 2 ^ shift := Nat.mul_le_mul_right _ long

theorem le_iff (normal : Normal mantissa exponent) (other_normal : Normal other shift) :
    mantissa * 2 ^ exponent ≤ other * 2 ^ shift ↔
      exponent < shift ∨ exponent = shift ∧ mantissa ≤ other := by
  rcases Nat.lt_trichotomy exponent shift with less | rfl | greater
  · have le := Nat.le_of_lt (normal.lt_of_exponent_lt other_normal less)
    simp [less, le]
  · simp [Nat.mul_le_mul_right_iff (Nat.two_pow_pos exponent)]
  · have less := other_normal.lt_of_exponent_lt normal greater
    omega

end Normal

theorem wordOfUnits_unitsOfWord (word : Nat) : wordOfUnits (unitsOfWord word) = word := by
  unfold unitsOfWord
  split
  · rename_i subnormal
    rw [leadingBit_eq] at subnormal
    have short : word < 2 ^ 53 := by omega
    simp [wordOfUnits, lastDigit_of_short short]
  · rename_i normal
    have rest : word % leadingBit < leadingBit := Nat.mod_lt _ (by decide)
    have pos : 1 ≤ word / leadingBit := (Nat.one_le_div_iff (by decide)).mpr (by omega)
    have fields := Nat.div_add_mod word leadingBit
    have long : 2 ^ 52 ≤ leadingBit + word % leadingBit := by rw [leadingBit_eq]; omega
    have short : leadingBit + word % leadingBit < 2 ^ 53 := by rw [leadingBit_eq] at rest ⊢; omega
    have shift := lastDigit_shifted long short (word / leadingBit - 1)
    rw [wordOfUnits, Nat.pow_eq, shift, Nat.pow_eq, Nat.mul_div_cancel _ (Nat.two_pow_pos _),
      Nat.sub_mul, ← Nat.add_assoc]
    have le : 1 * leadingBit ≤ word / leadingBit * leadingBit := Nat.mul_le_mul_right _ pos
    rw [Nat.mul_comm] at fields
    omega

theorem ofUnits_of_exact {x : Float} {negative : Bool} {units : Nat}
    (exact : Exact.ofFloat x = .finite negative units) : ofUnits negative units = x := by
  simp only [Exact.ofFloat] at exact
  split at exact
  · obtain ⟨rfl, rfl⟩ := Exact.finite.inj exact
    have bound : x.toBits.toNat < 2 ^ 64 := x.toBits.toNat_lt
    have word : (if decide (signBit ≤ x.toBits.toNat) then signBit else 0) +
        x.toBits.toNat % signBit = x.toBits.toNat := by
      by_cases high : signBit ≤ x.toBits.toNat
      · rw [if_pos (decide_eq_true high)]
        simp only [signBit] at high ⊢
        omega
      · rw [if_neg (by simpa using high)]
        simp only [signBit] at high ⊢
        omega
    rw [ofUnits, wordOfUnits_unitsOfWord, word, UInt64.ofNat_toNat, Float.ofBits_toBits]
  · split at exact <;> cases exact

def signOf (negative : Bool) : UnpackedFloat.Sign := if negative then .negative else .positive

section Fields

variable (bits : BitVec Format.binary64.numBits)

theorem toNat_exponent :
    (UnpackedFloat.unpackExponent bits).toNat = bits.toNat % signBit / leadingBit := by
  have bound : bits.toNat < 2 ^ 64 := bits.isLt
  rw [UnpackedFloat.unpackExponent_def, BitVec.extractLsb'_toNat, Nat.shiftRight_eq_div_pow]
  simp only [signBit, leadingBit]
  omega

theorem toNat_mantissa :
    (UnpackedFloat.unpackMantissa bits).toNat = bits.toNat % leadingBit := by
  rw [UnpackedFloat.unpackMantissa_def, BitVec.extractLsb'_toNat, Nat.shiftRight_zero]
  rfl

theorem sign_eq :
    UnpackedFloat.Sign.ofBitVec (UnpackedFloat.unpackSign bits) =
      signOf (decide (signBit ≤ bits.toNat)) := by
  have bound : bits.toNat < 2 ^ 64 := bits.isLt
  have field : (UnpackedFloat.unpackSign bits).toNat = bits.toNat / signBit := by
    rw [UnpackedFloat.unpackSign_def, BitVec.extractLsb'_toNat, Nat.shiftRight_eq_div_pow]
    simp only [signBit]
    omega
  have zero : UnpackedFloat.unpackSign bits = 0#1 ↔ ¬ signBit ≤ bits.toNat := by
    rw [← BitVec.toNat_inj, field]
    simp [signBit]
  by_cases high : signBit ≤ bits.toNat <;> simp [UnpackedFloat.Sign.ofBitVec, zero, signOf, high]

theorem toNat_leading (mantissa : BitVec 52) : (1#1 ++ mantissa).toNat = 2 ^ 52 + mantissa.toNat := by
  rw [BitVec.toNat_append, ← Nat.shiftLeft_add_eq_or_of_lt mantissa.isLt]
  rfl

theorem unitsOfWord_subnormal (empty : UnpackedFloat.unpackExponent bits = 0#_) :
    unitsOfWord (bits.toNat % signBit) = (UnpackedFloat.unpackMantissa bits).toNat := by
  have exponent := toNat_exponent bits
  have low : bits.toNat % signBit % leadingBit = bits.toNat % leadingBit :=
    Nat.mod_mod_of_dvd _ (by decide)
  rw [empty, BitVec.toNat_ofNat, Nat.zero_mod, eq_comm, Nat.div_eq_zero_iff] at exponent
  have subnormal : bits.toNat % signBit < leadingBit := exponent.resolve_left (by decide)
  rw [Nat.mod_eq_of_lt subnormal] at low
  rw [unitsOfWord, if_pos subnormal, low, ← toNat_mantissa]

theorem unitsOfWord_normal (some : UnpackedFloat.unpackExponent bits ≠ 0#_) :
    unitsOfWord (bits.toNat % signBit) = (1#1 ++ UnpackedFloat.unpackMantissa bits).toNat *
      2 ^ ((UnpackedFloat.unpackExponent bits).toNat - 1) := by
  have exponent := toNat_exponent bits
  have low : bits.toNat % signBit % leadingBit = bits.toNat % leadingBit :=
    Nat.mod_mod_of_dvd _ (by decide)
  have above : ¬ bits.toNat % signBit < leadingBit := by
    intro below
    rw [Nat.div_eq_of_lt below] at exponent
    exact some (BitVec.toNat_inj.mp exponent)
  rw [unitsOfWord, if_neg above, low, ← exponent, ← toNat_mantissa, toNat_leading, leadingBit_eq]
  rfl

theorem unpack_finite (small : bits.toNat % signBit < infiniteWord) :
    (unitsOfWord (bits.toNat % signBit) = 0 ∧
      UnpackedFloat.unpack _ bits = .zero (signOf (decide (signBit ≤ bits.toNat)))) ∨
      ∃ (mantissa exponent : Nat) (pos : 0 < mantissa), UnpackedFloat.unpack _ bits =
          .finite (signOf (decide (signBit ≤ bits.toNat))) mantissa ((exponent : Int) - 1074) pos ∧
        unitsOfWord (bits.toNat % signBit) = mantissa * 2 ^ exponent ∧ Normal mantissa exponent := by
  have exponent := toNat_exponent bits
  have bound : (UnpackedFloat.unpackMantissa bits).toNat < 2 ^ 52 :=
    (UnpackedFloat.unpackMantissa bits).isLt
  have leads := toNat_leading (UnpackedFloat.unpackMantissa bits)
  rw [UnpackedFloat.unpack]
  simp only [sign_eq]
  split
  · rename_i full
    rw [full] at exponent
    simp [leadingBit, infiniteWord] at exponent small
    omega
  · split
    · rename_i empty
      rw [unitsOfWord_subnormal bits empty]
      split
      · rename_i none
        exact Or.inl ⟨by rw [none]; rfl, rfl⟩
      · rename_i some
        have pos : 0 < (UnpackedFloat.unpackMantissa bits).toNat :=
          Nat.pos_of_ne_zero fun zero => some (BitVec.toNat_inj.mp zero)
        refine Or.inr ⟨_, 0, pos, ?_, ?_, ⟨by omega, Or.inl rfl, by omega⟩⟩
        · congr 1
          rw [empty]
          rfl
        · rw [Nat.pow_zero, Nat.mul_one]
    · rename_i full normal
      have positive : 0 < (UnpackedFloat.unpackExponent bits).toNat :=
        Nat.pos_of_ne_zero fun zero => normal (BitVec.toNat_inj.mp zero)
      have inRange : (UnpackedFloat.unpackExponent bits).toNat - 1 ≤ 2045 := by
        simp only [infiniteWord, leadingBit] at small exponent
        omega
      refine Or.inr ⟨(1#1 ++ UnpackedFloat.unpackMantissa bits).toNat,
        (UnpackedFloat.unpackExponent bits).toNat - 1, by omega, ?_, unitsOfWord_normal bits normal,
        ⟨by omega, Or.inr (by omega), inRange⟩⟩
      congr 1
      simp [Format.exponentBias]
      omega

theorem isFinite_unpack :
    (UnpackedFloat.unpack _ bits).isFinite = decide (bits.toNat % signBit < infiniteWord) := by
  by_cases small : bits.toNat % signBit < infiniteWord
  · rcases unpack_finite bits small with ⟨-, zero⟩ | ⟨mantissa, exponent, pos, value, -⟩
    · rw [zero, decide_eq_true small]
      rfl
    · rw [value, decide_eq_true small]
      rfl
  · have full : UnpackedFloat.unpackExponent bits = -1#11 := by
      rw [← BitVec.toNat_inj, toNat_exponent]
      simp [leadingBit, signBit, infiniteWord] at small ⊢
      omega
    rw [UnpackedFloat.unpack, decide_eq_false small]
    simp only
    rw [if_pos full]
    split <;> rfl

end Fields

theorem isFinite_iff {x : Float} :
    x.isFinite = true ↔ ∃ negative units, Exact.ofFloat x = .finite negative units := by
  have finite : x.isFinite = decide (x.toBits.toNat % signBit < infiniteWord) :=
    isFinite_unpack x.toModel.toBits.toBitVec
  simp only [finite, decide_eq_true_eq, Exact.ofFloat]
  split
  · simp_all
  · split <;> simp_all

section Packing

variable {negative : Bool} {units mantissa exponent : Nat}

theorem unpack_of_exact {x : Float} (exact : Exact.ofFloat x = .finite negative units) :
    (units = 0 ∧ x.toModel.unpack = .zero (signOf negative)) ∨
      ∃ (mantissa exponent : Nat) (pos : 0 < mantissa), x.toModel.unpack =
          .finite (signOf negative) mantissa ((exponent : Int) - 1074) pos ∧
        units = mantissa * 2 ^ exponent ∧ Normal mantissa exponent := by
  simp only [Exact.ofFloat] at exact
  split at exact
  · rename_i small
    obtain ⟨rfl, rfl⟩ := Exact.finite.inj exact
    exact unpack_finite x.toModel.toBits.toBitVec small
  · split at exact <;> cases exact

theorem toNat_packComponents (negative : Bool) (exponent : BitVec Format.binary64.exponentBits)
    (mantissa : BitVec Format.binary64.mantissaBitsWithoutImplicit) :
    (UnpackedFloat.packComponents _ (signOf negative) exponent mantissa).toNat =
      (if negative then signBit else 0) + exponent.toNat * leadingBit + mantissa.toNat := by
  have mantissa_lt : mantissa.toNat < 2 ^ 52 := mantissa.isLt
  have exponent_lt : exponent.toNat < 2 ^ 11 := exponent.isLt
  have sign : (signOf negative).toBitVec.toNat = if negative then 1 else 0 := by
    cases negative <;> rfl
  rw [UnpackedFloat.packComponents, BitVec.toNat_append, BitVec.toNat_append,
    ← Nat.shiftLeft_add_eq_or_of_lt mantissa.isLt, ← Nat.shiftLeft_add_eq_or_of_lt exponent.isLt,
    sign, Nat.shiftLeft_eq, Nat.shiftLeft_eq]
  cases negative <;> simp only [leadingBit, signBit, if_true, if_false, Bool.false_eq_true] <;> omega

theorem toNat_pack (pos : 0 < mantissa) (normal : Normal mantissa exponent) :
    (UnpackedFloat.pack Format.binary64
      (.finite (signOf negative) mantissa ((exponent : Int) - 1074) pos)).toNat =
      (if negative then signBit else 0) + wordOfUnits (mantissa * 2 ^ exponent) := by
  have short := normal.short
  have finite := normal.finite
  have biased : (((exponent : Int) - 1074 + (Format.exponentBias .binary64 : Nat) +
      (Format.mantissaBitsWithoutImplicit .binary64 : Nat)).toNat) = exponent + 1 := by
    simp [Format.exponentBias]
    omega
  have inRange : ¬ 2 ^ Format.binary64.exponentBits ≤ exponent + 1 + 1 :=
    Nat.not_le.mpr (Nat.lt_of_le_of_lt (Nat.add_le_add_right finite 2) (by decide))
  rw [normal.wordOfUnits_eq, UnpackedFloat.pack]
  simp only [biased]
  rw [if_neg inRange]
  by_cases long : 2 ^ 52 ≤ mantissa
  · have log : mantissa.log2 = 52 := (Nat.log2_eq_iff (by omega)).mpr ⟨long, short⟩
    have full : mantissa.log2 + 1 = Format.binary64.mantissaBits := congrArg (· + 1) log
    rw [if_pos full, toNat_packComponents, BitVec.toNat_ofNat, BitVec.toNat_ofNat]
    simp only [leadingBit]
    omega
  · have log : mantissa.log2 < 52 := log2_lt_of_lt (by omega) (by decide)
    have subnormal : ¬ mantissa.log2 + 1 = Format.binary64.mantissaBits :=
      Nat.ne_of_lt (Nat.succ_lt_succ log)
    have zero : exponent = 0 := normal.full.resolve_right long
    rw [if_neg subnormal, toNat_packComponents, BitVec.toNat_ofNat, BitVec.toNat_ofNat]
    simp only [leadingBit]
    omega

theorem ofModel_pack (pos : 0 < mantissa) (normal : Normal mantissa exponent) :
    Float.ofModel (Float.Model.pack
      (.finite (signOf negative) mantissa ((exponent : Int) - 1074) pos)) =
      ofUnits negative (mantissa * 2 ^ exponent) := by
  have small := normal.wordOfUnits_lt
  have bound : (if negative then signBit else 0) + wordOfUnits (mantissa * 2 ^ exponent) < 2 ^ 64 := by
    simp only [infiniteWord, signBit] at small ⊢
    split <;> omega
  have bits : (UInt64.ofNat ((if negative then signBit else 0) +
      wordOfUnits (mantissa * 2 ^ exponent))).toBitVec = UnpackedFloat.pack Format.binary64
        (.finite (signOf negative) mantissa ((exponent : Int) - 1074) pos) := by
    apply BitVec.eq_of_toNat_eq
    rw [toNat_pack pos normal]
    exact UInt64.toNat_ofNat_of_lt bound
  rw [ofUnits, Float.ofBits, Float.Model.ofBits, bits, Float.Model.pack, Float.Model.pack]
  congr 3
  exact (UnpackedFloat.pack_unpack_of_valid UnpackedFloat.valid_pack).symm

theorem exact_ofUnits (normal : Normal mantissa exponent) :
    Exact.ofFloat (ofUnits negative (mantissa * 2 ^ exponent)) =
      .finite negative (mantissa * 2 ^ exponent) := by
  by_cases pos : 0 < mantissa
  · have small := normal.wordOfUnits_lt
    have word : (ofUnits negative (mantissa * 2 ^ exponent)).toBits.toNat =
        (if negative then signBit else 0) + wordOfUnits (mantissa * 2 ^ exponent) := by
      rw [← ofModel_pack pos normal]
      exact toNat_pack pos normal
    have sign : decide (signBit ≤ (if negative then signBit else 0) +
        wordOfUnits (mantissa * 2 ^ exponent)) = negative := by
      simp only [infiniteWord, signBit] at small ⊢
      cases negative with
      | false => simpa using Nat.lt_trans small (by decide)
      | true => simp
    have magnitude : ((if negative then signBit else 0) +
        wordOfUnits (mantissa * 2 ^ exponent)) % signBit = wordOfUnits (mantissa * 2 ^ exponent) := by
      simp only [infiniteWord, signBit] at small ⊢
      split <;> omega
    simp only [Exact.ofFloat, word, sign, magnitude]
    rw [if_pos small, normal.unitsOfWord_wordOfUnits]
  · have zero : mantissa * 2 ^ exponent = 0 := by simp [Nat.eq_zero_of_not_pos pos]
    rw [zero]
    cases negative <;> decide +kernel

theorem abs_of_exact {x : Float} (exact : Exact.ofFloat x = .finite negative units) :
    x.abs = ofUnits false units := by
  rw [Float.abs, Float.Model.abs]
  rcases unpack_of_exact exact with ⟨rfl, value⟩ | ⟨mantissa, exponent, pos, value, rfl, normal⟩
  · rw [value]
    rfl
  · have packed : Float.ofModel (Float.Model.pack (.finite (signOf false) mantissa
        ((exponent : Int) - 1074) pos)) = ofUnits false (mantissa * 2 ^ exponent) :=
      ofModel_pack pos normal
    rw [value]
    exact packed

theorem exact_abs {x : Float} (exact : Exact.ofFloat x = .finite negative units) :
    Exact.ofFloat x.abs = .finite false units := by
  rw [abs_of_exact exact]
  rcases unpack_of_exact exact with ⟨rfl, -⟩ | ⟨mantissa, exponent, -, -, rfl, normal⟩
  · decide +kernel
  · exact exact_ofUnits normal

theorem le_iff_of_exact {x y : Float} {other : Nat} (exact : Exact.ofFloat x = .finite false units)
    (other_exact : Exact.ofFloat y = .finite false other) : x ≤ y ↔ units ≤ other := by
  have order : x ≤ y ↔ x.toModel.unpack.le y.toModel.unpack = true := decide_eq_true_iff
  rw [order, UnpackedFloat.le]
  rcases unpack_of_exact exact with ⟨rfl, value⟩ | ⟨mantissa, exponent, pos, value, rfl, normal⟩ <;>
    rcases unpack_of_exact other_exact with ⟨rfl, other_value⟩ |
      ⟨other, shift, other_pos, other_value, rfl, other_normal⟩ <;>
    rw [value, other_value]
  · simp [UnpackedFloat.compare]
  · simp [UnpackedFloat.compare, signOf]
  · simp [UnpackedFloat.compare, signOf]
    omega
  · rw [normal.le_iff other_normal]
    simp [UnpackedFloat.compare, signOf, Ordering.isLE_then_iff_or, Int.compare_eq_lt,
      Nat.isLE_compare]

end Packing

end Thermals.Number
