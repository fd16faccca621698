import Thermals.Time.Instant

namespace Thermals.Time

theorem Span.not_lt {a b : Span} : ¬ a < b ↔ b ≤ a := Nat.not_lt

theorem Span.lt_of_lt_of_le {a b c : Span} (first : a < b) (second : b ≤ c) : a < c :=
  Nat.lt_of_lt_of_le first second

theorem Span.le_trans {a b c : Span} (first : a ≤ b) (second : b ≤ c) : a ≤ c :=
  Nat.le_trans first second

theorem Span.le_double (s : Span) : s ≤ s.double := by
  have bound := s.nanos_lt
  rw [Span.le_def, Span.nanos_double]
  omega

theorem Span.double_mono {a b : Span} (le : a ≤ b) : a.double ≤ b.double := by
  rw [Span.le_def] at le ⊢
  rw [Span.nanos_double, Span.nanos_double]
  omega

theorem Instant.ne_of_lt {a b : Instant} (less : a < b) : a ≠ b := by
  intro same
  rw [same, Instant.lt_def] at less
  omega

theorem Instant.lt_of_not_lt {a b : Instant} (notLess : ¬ b < a) (differ : a ≠ b) : a < b := by
  have different : a.millis ≠ b.millis := fun same => differ (Instant.ext same)
  rw [Instant.lt_def] at notLess ⊢
  omega

instance : Max Instant := maxOfLe

theorem Instant.max_of_le {a b : Instant} (le : a ≤ b) : max a b = b := if_pos le

theorem Instant.max_of_lt {a b : Instant} (less : b < a) : max a b = a := if_neg (Int.not_le.mpr less)

theorem Instant.since_mono {now later : Instant} (le : now ≤ later) (earlier : Instant) :
    now.since earlier ≤ later.since earlier := by
  rw [Instant.le_def] at le
  rw [Span.le_def, Instant.nanos_since, Instant.nanos_since]
  omega

theorem Instant.since_later_le {now later : Instant} (le : now ≤ later) (s : Span) :
    now.since later ≤ s := by
  rw [Instant.le_def] at le
  rw [Span.le_def, Instant.nanos_since]
  have none : (now.millis - later.millis).toNat = 0 := by omega
  simp [none]

theorem Instant.since_self_le (now : Instant) (s : Span) : now.since now ≤ s :=
  since_later_le (Int.le_refl now.millis) s

end Thermals.Time
