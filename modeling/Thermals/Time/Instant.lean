import Thermals.Time.Span

namespace Thermals.Time

/-- Milliseconds since 1970-01-01T00:00:00Z, kept in the range of a signed word. -/
@[ext] structure Instant where
  millis : Int
  le_millis : -0x8000000000000000 ≤ millis
  millis_lt : millis < 0x8000000000000000
  deriving DecidableEq

namespace Instant

instance : LE Instant := ⟨fun a b => a.millis ≤ b.millis⟩
instance : LT Instant := ⟨fun a b => a.millis < b.millis⟩
instance (a b : Instant) : Decidable (a ≤ b) := inferInstanceAs (Decidable (a.millis ≤ b.millis))
instance (a b : Instant) : Decidable (a < b) := inferInstanceAs (Decidable (a.millis < b.millis))
instance : Ord Instant := ⟨fun a b => compare a.millis b.millis⟩

theorem le_def {a b : Instant} : a ≤ b ↔ a.millis ≤ b.millis := Iff.rfl

theorem lt_def {a b : Instant} : a < b ↔ a.millis < b.millis := Iff.rfl

def ofMillis? (n : Int) : Option Instant :=
  if h : -0x8000000000000000 ≤ n ∧ n < 0x8000000000000000 then some ⟨n, h.1, h.2⟩ else none

def clamp (n : Int) : Instant :=
  ⟨max (-0x8000000000000000) (min n 0x7FFFFFFFFFFFFFFF), by omega, by omega⟩

def epoch : Instant := ⟨0, by decide, by decide⟩

instance : Inhabited Instant := ⟨epoch⟩

def ofSeconds (n : Int) : Instant := clamp (n * 1000)

/-- The instant so many nanoseconds after a whole second. Nanoseconds beyond one second stand for a
leap second, which runs on into the next one. -/
def ofUnix (seconds : Int) (nanos : Nat) : Instant :=
  clamp (seconds * 1000 + (nanos / 1000000 : Nat))

/-- The longest step that fits between two instants, in milliseconds. -/
def longestStep : Nat := 0x7FFFFFFFFFFFFFFF

def since (now earlier : Instant) : Span :=
  Span.ofMillis (min (now.millis - earlier.millis).toNat longestStep)

def step (s : Span) : Nat := min s.millis longestStep

instance : HAdd Instant Span Instant := ⟨fun t s => clamp (t.millis + step s)⟩
instance : HSub Instant Span Instant := ⟨fun t s => clamp (t.millis - step s)⟩

theorem nanos_since (now earlier : Instant) :
    (now.since earlier).nanos =
      min (now.millis - earlier.millis).toNat longestStep * 1000000 := by
  have bound : min (now.millis - earlier.millis).toNat longestStep ≤ longestStep := by omega
  simp only [since, Span.ofMillis, Span.nanos_saturate, longestStep] at bound ⊢
  omega

end Instant
end Thermals.Time
