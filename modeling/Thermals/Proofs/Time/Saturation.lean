import Mathlib.Algebra.Order.Ring.Int
import Thermals.Proofs.Time.Words

namespace Thermals.Time

namespace Instant

theorem cast_step (s : Span) : (step s : Int) = min (s.millis : Int) (2 ^ 63 - 1) := by
  unfold step longestStep
  omega

theorem millis_add (t : Instant) (s : Span) :
    (t + s).millis = max (-2 ^ 63) (min (t.millis + min (s.millis : Int) (2 ^ 63 - 1)) (2 ^ 63 - 1)) := by
  rw [← cast_step]
  rfl

theorem millis_sub (t : Instant) (s : Span) :
    (t - s).millis = max (-2 ^ 63) (min (t.millis - min (s.millis : Int) (2 ^ 63 - 1)) (2 ^ 63 - 1)) := by
  rw [← cast_step]
  rfl

theorem cast_nanos_since (now earlier : Instant) : ((now.since earlier).nanos : Int) =
    min (max (now.millis - earlier.millis) 0) (2 ^ 63 - 1) * 1000000 := by
  rw [nanos_since, longestStep]
  omega

theorem cast_nanos_since_add (t : Instant) (s : Span) : (((t + s).since t).nanos : Int) =
    min (s.millis : Int) (2 ^ 63 - 1 - max t.millis 0) * 1000000 := by
  have low := t.le_millis
  have high := t.millis_lt
  rw [cast_nanos_since, millis_add]
  omega

theorem cast_nanos_since_sub (t : Instant) (s : Span) : ((t.since (t - s)).nanos : Int) =
    min (min (s.millis : Int) (2 ^ 63 - 1)) (t.millis - -2 ^ 63) * 1000000 := by
  have low := t.le_millis
  have high := t.millis_lt
  rw [cast_nanos_since, millis_sub]
  omega

theorem add_mono {t later : Instant} (le : t ≤ later) (s : Span) : t + s ≤ later + s := by
  rw [le_def] at le ⊢
  rw [millis_add, millis_add]
  omega

theorem sub_mono {t later : Instant} (le : t ≤ later) (s : Span) : t - s ≤ later - s := by
  rw [le_def] at le ⊢
  rw [millis_sub, millis_sub]
  omega

theorem since_anti {earlier later : Instant} (le : earlier ≤ later) (now : Instant) :
    now.since later ≤ now.since earlier := by
  rw [le_def] at le
  rw [Span.le_def, nanos_since, nanos_since]
  omega

/-- Arithmetic on instants is exact up to the ends of their range and stops there. It is monotone, and
machine words hold each of its steps as it is. -/
theorem saturates_exactly (a b t : Instant) (s : Span) :
    ((a.since b).nanos : Int) = min (max (a.millis - b.millis) 0) (2 ^ 63 - 1) * 1000000 ∧
    (t + s).millis = max (-2 ^ 63) (min (t.millis + min (s.millis : Int) (2 ^ 63 - 1)) (2 ^ 63 - 1)) ∧
    (t - s).millis = max (-2 ^ 63) (min (t.millis - min (s.millis : Int) (2 ^ 63 - 1)) (2 ^ 63 - 1)) ∧
    (((t + s).since t).nanos : Int) = min (s.millis : Int) (2 ^ 63 - 1 - max t.millis 0) * 1000000 ∧
    ((t.since (t - s)).nanos : Int) =
      min (min (s.millis : Int) (2 ^ 63 - 1)) (t.millis - -2 ^ 63) * 1000000 ∧
    (∀ later, t ≤ later → t + s ≤ later + s ∧ t - s ≤ later - s) ∧
    (∀ later, a ≤ later → a.since b ≤ later.since b) ∧
    (∀ later, b ≤ later → a.since later ≤ a.since b) ∧
    (elapsedWords a.word b.word = (a.since b).words ∧ laterWord t.word s.words = (t + s).word ∧
      earlierWord t.word s.words = (t - s).word) ∧
    t.word.toInt = t.millis ∧ s.words.seconds.toNat = s.seconds ∧ s.words.nanos.toNat = s.subsecond ∧
      s.words.millis.toNat = s.millis ∧ s.words.step.toInt = min (s.millis : Int) (2 ^ 63 - 1) := by
  refine ⟨cast_nanos_since a b, millis_add t s, millis_sub t s, cast_nanos_since_add t s,
    cast_nanos_since_sub t s, ?_, fun later le => since_mono le b, fun later le => since_anti le a, ?_,
    t.toInt_word, s.toNat_seconds, s.toNat_nanos, s.toNat_millis, ?_⟩
  · intro later le
    exact ⟨add_mono le s, sub_mono le s⟩
  · exact ⟨(words_since a b).symm, (word_add t s).symm, (word_sub t s).symm⟩
  · rw [s.toInt_step, cast_step]

end Instant
end Thermals.Time
