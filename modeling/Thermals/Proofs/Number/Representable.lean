import Thermals.Proofs.Number.Binary64

namespace Thermals.Number

def Representable (units : Nat) : Prop :=
  ∃ mantissa exponent, Normal mantissa exponent ∧ units = mantissa * 2 ^ exponent

theorem Representable.exact {units : Nat} (held : Representable units) (negative : Bool) :
    Exact.ofFloat (ofUnits negative units) = .finite negative units := by
  obtain ⟨mantissa, exponent, normal, rfl⟩ := held
  exact exact_ofUnits normal

theorem representable_of_exact {x : Float} {negative : Bool} {units : Nat}
    (exact : Exact.ofFloat x = .finite negative units) : Representable units := by
  rcases unpack_of_exact exact with ⟨rfl, -⟩ | ⟨mantissa, exponent, -, -, same, normal⟩
  · exact ⟨0, 0, ⟨by decide, Or.inl rfl, by decide⟩, rfl⟩
  · exact ⟨mantissa, exponent, normal, same⟩

theorem representable_of_short {mantissa exponent : Nat} (short : mantissa < 2 ^ 53)
    (finite : exponent ≤ 2045) : Representable (mantissa * 2 ^ exponent) := by
  -- The mantissa is doubled, with a lesser exponent, until it has all of its digits.
  induction exponent generalizing mantissa with
  | zero => exact ⟨mantissa, 0, ⟨short, Or.inl rfl, finite⟩, rfl⟩
  | succ exponent ih =>
    by_cases long : 2 ^ 52 ≤ mantissa
    · exact ⟨mantissa, exponent + 1, ⟨short, Or.inr long, finite⟩, rfl⟩
    · have doubled : mantissa * 2 ^ (exponent + 1) = 2 * mantissa * 2 ^ exponent := by
        rw [Nat.pow_succ, Nat.mul_comm 2 mantissa, Nat.mul_assoc, Nat.mul_comm 2]
      rw [doubled]
      exact ih (by omega) (by omega)

/-- Whole multiples of a power of two with a mantissa of at most 53 binary digits. -/
structure OnGrid (power units : Nat) : Prop where
  dvd : 2 ^ power ∣ units
  lt : units < 2 ^ 53 * 2 ^ power

namespace OnGrid

variable {power units other : Nat}

theorem representable (grid : OnGrid power units) (finite : power ≤ 2045) : Representable units := by
  obtain ⟨mantissa, same⟩ := grid.dvd
  have bound := grid.lt
  rw [same, Nat.mul_comm] at bound ⊢
  exact representable_of_short (Nat.lt_of_mul_lt_mul_right bound) finite

theorem of_le (grid : OnGrid power units) (le : other ≤ units) (dvd : 2 ^ power ∣ other) :
    OnGrid power other := ⟨dvd, Nat.lt_of_le_of_lt le grid.lt⟩

end OnGrid

theorem Representable.onGrid {units : Nat} (held : Representable units) :
    ∃ power, OnGrid power units := by
  obtain ⟨mantissa, exponent, normal, rfl⟩ := held
  exact ⟨exponent, ⟨Nat.dvd_mul_left _ _,
    Nat.mul_lt_mul_of_pos_right normal.short (Nat.two_pow_pos exponent)⟩⟩

theorem Representable.mod {units turn power : Nat} (held : Representable units)
    (turning : OnGrid power turn) (pos : 0 < turn) : ∃ fine ≤ power, OnGrid fine (units % turn) := by
  obtain ⟨exponent, grid⟩ := held.onGrid
  rcases Nat.le_total exponent power with le | ge
  · have dvd : 2 ^ exponent ∣ turn := Nat.dvd_trans (Nat.pow_dvd_pow 2 le) turning.dvd
    exact ⟨exponent, le, grid.of_le (Nat.mod_le _ _) ((Nat.dvd_mod_iff dvd).mpr grid.dvd)⟩
  · have dvd : 2 ^ power ∣ units := Nat.dvd_trans (Nat.pow_dvd_pow 2 ge) grid.dvd
    have le : units % turn ≤ turn := Nat.le_of_lt (Nat.mod_lt _ pos)
    exact ⟨power, Nat.le_refl power, turning.of_le le ((Nat.dvd_mod_iff turning.dvd).mpr dvd)⟩

end Thermals.Number
