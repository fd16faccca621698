namespace Thermals.Time

@[ext] structure Span where
  nanos : Nat
  nanos_lt : nanos < 0x10000000000000000 * 1000000000
  deriving DecidableEq

namespace Span

instance : LE Span := ⟨fun a b => a.nanos ≤ b.nanos⟩
instance : LT Span := ⟨fun a b => a.nanos < b.nanos⟩
instance (a b : Span) : Decidable (a ≤ b) := inferInstanceAs (Decidable (a.nanos ≤ b.nanos))
instance (a b : Span) : Decidable (a < b) := inferInstanceAs (Decidable (a.nanos < b.nanos))

def longest : Span := ⟨0x10000000000000000 * 1000000000 - 1, by decide⟩

def saturate (nanos : Nat) : Span :=
  if h : nanos < 0x10000000000000000 * 1000000000 then ⟨nanos, h⟩ else longest

def zero : Span := ⟨0, by decide⟩

instance : Inhabited Span := ⟨zero⟩

def ofParts? (seconds nanos : Nat) : Option Span :=
  let total := seconds * 1000000000 + nanos
  if h : total < 0x10000000000000000 * 1000000000 then some ⟨total, h⟩ else none

def ofSeconds (n : Nat) : Span := saturate (n * 1000000000)
def ofMillis (n : Nat) : Span := saturate (n * 1000000)
def ofMinutes (n : Nat) : Span := ofSeconds (n * 60)
def ofHours (n : Nat) : Span := ofSeconds (n * 3600)

def seconds (s : Span) : Nat := s.nanos / 1000000000

def subsecond (s : Span) : Nat := s.nanos % 1000000000

def millis (s : Span) : Nat := s.nanos / 1000000

def double (s : Span) : Span := saturate (2 * s.nanos)

theorem le_def {a b : Span} : a ≤ b ↔ a.nanos ≤ b.nanos := Iff.rfl

theorem lt_def {a b : Span} : a < b ↔ a.nanos < b.nanos := Iff.rfl

theorem nanos_saturate (n : Nat) : (saturate n).nanos = min n (0x10000000000000000 * 1000000000 - 1) := by
  unfold saturate
  split
  · simp only []; omega
  · simp only [longest]; omega

theorem nanos_double (s : Span) : s.double.nanos = min (2 * s.nanos) (0x10000000000000000 * 1000000000 - 1) :=
  nanos_saturate _

end Span
end Thermals.Time
