namespace Thermals.Number

def hexValue? (c : Char) : Option Nat :=
  let n := c.toNat
  if 48 ≤ n ∧ n ≤ 57 then some (n - 48)
  else if 65 ≤ n ∧ n ≤ 70 then some (n - 55)
  else if 97 ≤ n ∧ n ≤ 102 then some (n - 87)
  else none

def hexDigit (n : Nat) : Char := Char.ofNat (if n < 10 then 48 + n else 55 + n)

theorem hexValue?_lt {c : Char} {d : Nat} (h : hexValue? c = some d) : d < 16 := by
  simp only [hexValue?] at h
  split at h
  · cases h; omega
  · split at h
    · cases h; omega
    · split at h
      · cases h; omega
      · cases h

theorem hexValue?_hexDigit {n : Nat} (h : n < 16) : hexValue? (hexDigit n) = some n := by
  have all : ∀ k ∈ List.range 16, hexValue? (hexDigit k) = some k := by decide
  exact all n (List.mem_range.mpr h)

def readHex (value : Nat) : List Char → Option Nat
  | [] => some value
  | c :: rest =>
    match hexValue? c with
    | some d => readHex (16 * value + d) rest
    | none => none

def writeHex : Nat → Nat → List Char
  | 0, _ => []
  | width + 1, n => writeHex width (n / 16) ++ [hexDigit (n % 16)]

theorem readHex_lt {value result : Nat} {digits : List Char}
    (h : readHex value digits = some result) : result < (value + 1) * Nat.pow 16 digits.length := by
  induction digits generalizing value with
  | nil => cases h; simp
  | cons c rest ih =>
    simp only [readHex] at h
    split at h
    · rename_i d hd
      have bound := hexValue?_lt hd
      have step := ih h
      have grow : (16 * value + d + 1) * Nat.pow 16 rest.length ≤
          (value + 1) * 16 * Nat.pow 16 rest.length :=
        Nat.mul_le_mul_right _ (by omega)
      calc result < _ := step
        _ ≤ (value + 1) * 16 * Nat.pow 16 rest.length := grow
        _ = (value + 1) * (Nat.pow 16 rest.length * 16) := by
          rw [Nat.mul_assoc, Nat.mul_comm 16]
    · cases h

end Thermals.Number
