import Mathlib.Data.List.Induction
import Mathlib.Data.Nat.Digits.Defs
import Mathlib.Tactic.Ring
import Thermals.Number.Hex

namespace Thermals.Number

def hexDigits : List Char := "0123456789ABCDEF".toList

def digitValue (c : Char) : Nat := hexDigits.idxOf c.toUpper

def hexNumber (digits : List Char) : Nat := Nat.ofDigits 16 (digits.map digitValue).reverse

def IsHexRun (digits : List Char) : Prop := ∀ c ∈ digits, c.isHexDigit = true

instance (digits : List Char) : Decidable (IsHexRun digits) :=
  inferInstanceAs (Decidable (∀ c ∈ digits, c.isHexDigit = true))

theorem toNat_lt_of_isHexDigit {c : Char} (hex : c.isHexDigit = true) : c.toNat < 128 := by
  simp only [Char.isHexDigit, Char.isDigit, Bool.or_eq_true, Bool.and_eq_true, decide_eq_true_eq,
    ge_iff_le, UInt32.le_iff_toNat_le] at hex
  rcases hex with (⟨-, le⟩ | ⟨-, le⟩) | ⟨-, le⟩ <;> exact Nat.lt_of_le_of_lt le (by decide)

theorem of_ascii {p : Char → Prop}
    (table : ∀ n < 128, (Char.ofNat n).isHexDigit = true → p (Char.ofNat n)) {c : Char} (hex : c.isHexDigit = true) : p c := by
  have found := table c.toNat (toNat_lt_of_isHexDigit hex)
  rw [Char.ofNat_toNat] at found
  exact found hex

theorem hexValue?_of_isHexDigit {c : Char} (hex : c.isHexDigit = true) :
    hexValue? c = some (digitValue c) :=
  of_ascii (p := fun c => hexValue? c = some (digitValue c)) (by decide) hex

theorem hexDigit_digitValue {c : Char} (hex : c.isHexDigit = true) :
    hexDigit (digitValue c) = c.toUpper :=
  of_ascii (p := fun c => hexDigit (digitValue c) = c.toUpper) (by decide) hex

theorem isHexDigit_of_hexValue? {c : Char} {d : Nat} (value : hexValue? c = some d) :
    c.isHexDigit = true := by
  have table : ∀ n < 128, (hexValue? (Char.ofNat n)).isSome = true →
      (Char.ofNat n).isHexDigit = true := by
    decide
  have ascii : c.toNat < 128 := by
    by_contra above
    unfold hexValue? at value
    rw [if_neg (by omega), if_neg (by omega), if_neg (by omega)] at value
    cases value
  have found := table c.toNat ascii
  rw [Char.ofNat_toNat, value] at found
  exact found rfl

theorem digitValue_lt {c : Char} (hex : c.isHexDigit = true) : digitValue c < 16 :=
  hexValue?_lt (hexValue?_of_isHexDigit hex)

theorem isHexDigit_hexDigit {n : Nat} (small : n < 16) : (hexDigit n).isHexDigit = true :=
  isHexDigit_of_hexValue? (hexValue?_hexDigit small)

theorem hexNumber_cons (c : Char) (rest : List Char) :
    hexNumber (c :: rest) = 16 ^ rest.length * digitValue c + hexNumber rest := by
  rw [hexNumber, List.map_cons, List.reverse_cons, Nat.ofDigits_append, Nat.ofDigits_singleton,
    List.length_reverse, List.length_map, Nat.add_comm, hexNumber]

theorem hexNumber_append_singleton (digits : List Char) (c : Char) :
    hexNumber (digits ++ [c]) = 16 * hexNumber digits + digitValue c := by
  rw [hexNumber, List.map_append, List.reverse_append, List.map_singleton, List.reverse_singleton,
    List.singleton_append, Nat.ofDigits_cons, Nat.add_comm, hexNumber]

theorem readHex_of_run {digits : List Char} (hex : IsHexRun digits) (value : Nat) :
    readHex value digits = some (16 ^ digits.length * value + hexNumber digits) := by
  induction digits generalizing value with
  | nil => simp [readHex, hexNumber]
  | cons c rest ih =>
    have first := hexValue?_of_isHexDigit (hex c List.mem_cons_self)
    have more : IsHexRun rest := fun d member => hex d (List.mem_cons_of_mem c member)
    simp only [readHex, first]
    rw [ih more, hexNumber_cons, List.length_cons]
    congr 1
    ring

theorem isHexRun_of_readHex {digits : List Char} {value result : Nat}
    (read : readHex value digits = some result) : IsHexRun digits := by
  induction digits generalizing value with
  | nil => exact fun c member => absurd member List.not_mem_nil
  | cons c rest ih =>
    unfold readHex at read
    split at read
    · rename_i first
      intro d member
      rcases List.mem_cons.mp member with rfl | member
      · exact isHexDigit_of_hexValue? first
      · exact ih read d member
    · cases read

theorem readHex_eq_some_iff {digits : List Char} {n : Nat} :
    readHex 0 digits = some n ↔ IsHexRun digits ∧ n = hexNumber digits := by
  constructor
  · intro read
    have hex := isHexRun_of_readHex read
    rw [readHex_of_run hex, Nat.mul_zero, Nat.zero_add] at read
    exact ⟨hex, (Option.some.inj read).symm⟩
  · intro found
    rw [readHex_of_run found.1, Nat.mul_zero, Nat.zero_add, found.2]

theorem hexNumber_lt {digits : List Char} (hex : IsHexRun digits) :
    hexNumber digits < 16 ^ digits.length := by
  have bound := readHex_lt (readHex_eq_some_iff.mpr ⟨hex, rfl⟩)
  rw [Nat.zero_add, Nat.one_mul] at bound
  exact bound

theorem writeHex_hexNumber {digits : List Char} (hex : IsHexRun digits) {width : Nat}
    (fits : digits.length ≤ width) :
    writeHex width (hexNumber digits) = (digits.map Char.toUpper).leftpad width '0' := by
  induction digits using List.reverseRecOn generalizing width with
  | nil =>
    induction width with
    | zero => rfl
    | succ width ih =>
      have more := ih (Nat.zero_le width)
      simp only [hexNumber, List.map_nil, List.reverse_nil, Nat.ofDigits_nil, List.leftpad, List.length_nil,
        Nat.sub_zero, List.append_nil] at more ⊢
      rw [writeHex, Nat.zero_div, more, Nat.zero_mod, List.replicate_succ']
      rfl
  | append_singleton digits c ih =>
    obtain ⟨width, rfl⟩ : ∃ less, width = less + 1 := by
      rw [List.length_append, List.length_singleton] at fits
      exact ⟨width - 1, by omega⟩
    rw [List.length_append, List.length_singleton] at fits
    have last : c.isHexDigit = true := hex c (by simp)
    have front : IsHexRun digits := fun d member => hex d (List.mem_append_left _ member)
    have small := digitValue_lt last
    have high : hexNumber (digits ++ [c]) / 16 = hexNumber digits := by
      rw [hexNumber_append_singleton]
      omega
    have low : hexNumber (digits ++ [c]) % 16 = digitValue c := by
      rw [hexNumber_append_singleton]
      omega
    rw [writeHex, high, low, ih front (by omega), hexDigit_digitValue last]
    simp [List.leftpad]

theorem isHexRun_writeHex (width n : Nat) : IsHexRun (writeHex width n) := by
  induction width generalizing n with
  | zero => exact fun c member => absurd member List.not_mem_nil
  | succ width ih =>
    intro c member
    rw [writeHex, List.mem_append, List.mem_singleton] at member
    rcases member with member | rfl
    · exact ih (n / 16) c member
    · exact isHexDigit_hexDigit (Nat.mod_lt n (by decide))

theorem length_writeHex (width n : Nat) : (writeHex width n).length = width := by
  induction width generalizing n with
  | zero => rfl
  | succ width ih => rw [writeHex, List.length_append, ih, List.length_singleton]

theorem hexNumber_writeHex {width n : Nat} (fits : n < 16 ^ width) : hexNumber (writeHex width n) = n := by
  induction width generalizing n with
  | zero =>
    rw [Nat.pow_zero] at fits
    rw [Nat.lt_one_iff.mp fits]
    rfl
  | succ width ih =>
    have digit : digitValue (hexDigit (n % 16)) = n % 16 := by
      have small : n % 16 < 16 := Nat.mod_lt n (by decide)
      have value := hexValue?_of_isHexDigit (isHexDigit_hexDigit small)
      rw [hexValue?_hexDigit small] at value
      exact (Option.some.inj value).symm
    rw [Nat.pow_succ] at fits
    rw [writeHex, hexNumber_append_singleton, ih (by omega), digit]
    omega

end Thermals.Number
