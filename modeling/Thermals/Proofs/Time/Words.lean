import Thermals.Proofs.Time.Elapsed

namespace Thermals.Time

/-- The number in the range of a signed word that is nearest to `n`. -/
def nearest (n : Int) : Int := max (-0x8000000000000000) (min n 0x7FFFFFFFFFFFFFFF)

def saturatingAdd (a b : Int64) : Int64 :=
  if a.toBitVec.saddOverflow b.toBitVec then if b < 0 then Int64.minValue else Int64.maxValue else a + b

def saturatingSub (a b : Int64) : Int64 :=
  if a.toBitVec.ssubOverflow b.toBitVec then if 0 < b then Int64.minValue else Int64.maxValue else a - b

theorem toInt_saturatingAdd (a b : Int64) :
    (saturatingAdd a b).toInt = nearest (a.toInt + b.toInt) := by
  have low := b.le_toInt
  have high := b.toInt_lt
  have overflows : a.toBitVec.saddOverflow b.toBitVec = true ↔
      2 ^ 63 ≤ a.toInt + b.toInt ∨ a.toInt + b.toInt < -2 ^ 63 := by
    simp [BitVec.saddOverflow]
  unfold saturatingAdd nearest
  by_cases beyond : a.toBitVec.saddOverflow b.toBitVec = true
  · have first_low := a.le_toInt
    have first_high := a.toInt_lt
    rw [if_pos beyond]
    rw [overflows] at beyond
    by_cases down : b < 0
    · rw [if_pos down, Int64.toInt_minValue]
      rw [Int64.lt_iff_toInt_lt, Int64.toInt_zero] at down
      omega
    · rw [if_neg down, Int64.toInt_maxValue]
      rw [Int64.lt_iff_toInt_lt, Int64.toInt_zero] at down
      omega
  · have exact : (a + b).toInt = a.toInt + b.toInt := BitVec.toInt_add_of_not_saddOverflow beyond
    rw [if_neg beyond, exact]
    rw [overflows] at beyond
    omega

theorem toInt_saturatingSub (a b : Int64) :
    (saturatingSub a b).toInt = nearest (a.toInt - b.toInt) := by
  have low := b.le_toInt
  have high := b.toInt_lt
  have overflows : a.toBitVec.ssubOverflow b.toBitVec = true ↔
      2 ^ 63 ≤ a.toInt - b.toInt ∨ a.toInt - b.toInt < -2 ^ 63 := by
    simp [BitVec.ssubOverflow]
  unfold saturatingSub nearest
  by_cases beyond : a.toBitVec.ssubOverflow b.toBitVec = true
  · have first_low := a.le_toInt
    have first_high := a.toInt_lt
    rw [if_pos beyond]
    rw [overflows] at beyond
    by_cases down : 0 < b
    · rw [if_pos down, Int64.toInt_minValue]
      rw [Int64.lt_iff_toInt_lt, Int64.toInt_zero] at down
      omega
    · rw [if_neg down, Int64.toInt_maxValue]
      rw [Int64.lt_iff_toInt_lt, Int64.toInt_zero] at down
      omega
  · have exact : (a - b).toInt = a.toInt - b.toInt := BitVec.toInt_sub_of_not_ssubOverflow beyond
    rw [if_neg beyond, exact]
    rw [overflows] at beyond
    omega

theorem toNat_toUInt64 {w : Int64} (nonneg : 0 ≤ w.toInt) : (w.toUInt64.toNat : Int) = w.toInt := by
  change (w.toBitVec.toNat : Int) = w.toInt
  rw [Int64.toInt, BitVec.toInt_eq_toNat_cond] at nonneg ⊢
  split at nonneg
  · rename_i small
    rw [if_pos small]
  · have bound := w.toBitVec.isLt
    omega

@[ext] structure SpanWords where
  seconds : UInt64
  nanos : UInt32
  deriving DecidableEq

namespace SpanWords

def zero : SpanWords := ⟨0, 0⟩

def ofMillis (n : UInt64) : SpanWords := ⟨n / 1000, (n % 1000).toUInt32 * 1000000⟩

def millis (w : SpanWords) : BitVec 128 :=
  w.seconds.toBitVec.setWidth 128 * 1000 + (w.nanos / 1000000).toBitVec.setWidth 128

def step (w : SpanWords) : Int64 :=
  if w.millis < 0x8000000000000000 then Int64.ofBitVec (w.millis.setWidth 64) else Int64.maxValue

end SpanWords

def Span.words (s : Span) : SpanWords := ⟨.ofNat s.seconds, .ofNat s.subsecond⟩

namespace Span

variable (s : Span)

theorem toNat_seconds : s.words.seconds.toNat = s.seconds := by
  have bound := s.nanos_lt
  apply UInt64.toNat_ofNat_of_lt
  simp only [seconds, UInt64.size]
  omega

theorem toNat_nanos : s.words.nanos.toNat = s.subsecond := by
  apply UInt32.toNat_ofNat_of_lt
  simp only [subsecond, UInt32.size]
  omega

theorem toNat_millis : s.words.millis.toNat = s.millis := by
  have bound := s.nanos_lt
  have thousand : (1000 : BitVec 128).toNat = 1000 := rfl
  have million : (1000000 : UInt32).toNat = 1000000 := rfl
  simp only [SpanWords.millis, BitVec.toNat_add, BitVec.toNat_mul, BitVec.toNat_setWidth,
    UInt64.toNat_toBitVec, UInt32.toNat_toBitVec, UInt32.toNat_div, s.toNat_seconds, s.toNat_nanos,
    thousand, million]
  simp only [Span.seconds, Span.subsecond, Span.millis]
  omega

theorem toInt_step : s.words.step.toInt = Instant.step s := by
  have millis := s.toNat_millis
  have limit : (0x8000000000000000 : BitVec 128).toNat = 0x8000000000000000 := rfl
  unfold SpanWords.step Instant.step Instant.longestStep
  by_cases small : s.words.millis < 0x8000000000000000
  · rw [if_pos small]
    rw [BitVec.lt_def, millis, limit] at small
    have low : (s.words.millis.setWidth 64).toNat = s.millis := by
      rw [BitVec.toNat_setWidth, millis]
      omega
    have signed : (Int64.ofBitVec (s.words.millis.setWidth 64)).toInt = s.millis := by
      rw [Int64.toInt_ofBitVec, BitVec.toInt_eq_toNat_of_lt (by omega), low]
    omega
  · rw [if_neg small, Int64.toInt_maxValue]
    rw [BitVec.lt_def, millis, limit] at small
    omega

theorem words_ofMillis (n : UInt64) : (Span.ofMillis n.toNat).words = .ofMillis n := by
  have bound := n.toNat_lt
  have thousand : (1000 : UInt64).toNat = 1000 := rfl
  have million : (1000000 : UInt32).toNat = 1000000 := rfl
  have nanos : (Span.ofMillis n.toNat).nanos = n.toNat * 1000000 := by
    rw [Span.ofMillis, Span.nanos_saturate]
    omega
  apply SpanWords.ext
  · apply UInt64.toNat_inj.mp
    rw [toNat_seconds, Span.seconds, nanos, SpanWords.ofMillis, UInt64.toNat_div, thousand]
    omega
  · have rest : n.toNat * 1000000 % 1000000000 = n.toNat % 1000 * 1000000 :=
      Nat.mul_mod_mul_right 1000000 n.toNat 1000
    apply UInt32.toNat_inj.mp
    rw [toNat_nanos, Span.subsecond, nanos, rest, SpanWords.ofMillis, UInt32.toNat_mul,
      UInt64.toNat_toUInt32, UInt64.toNat_mod, thousand, million]
    omega

end Span

namespace Instant

def word (t : Instant) : Int64 := Int64.ofInt t.millis

theorem toInt_word (t : Instant) : t.word.toInt = t.millis :=
  Int64.toInt_ofInt_of_le t.le_millis t.millis_lt

theorem word_eq_iff {t : Instant} {w : Int64} : t.word = w ↔ t.millis = w.toInt := by
  rw [← Int64.toInt_inj, toInt_word]

def elapsedWords (now earlier : Int64) : SpanWords :=
  let difference := saturatingSub now earlier
  if 0 < difference then .ofMillis difference.toUInt64 else .zero

def laterWord (t : Int64) (s : SpanWords) : Int64 := saturatingAdd t s.step

def earlierWord (t : Int64) (s : SpanWords) : Int64 := saturatingSub t s.step

theorem words_since (now earlier : Instant) :
    (now.since earlier).words = elapsedWords now.word earlier.word := by
  have difference := toInt_saturatingSub now.word earlier.word
  rw [toInt_word, toInt_word] at difference
  have low := now.le_millis
  have high := now.millis_lt
  unfold elapsedWords
  by_cases passed : 0 < saturatingSub now.word earlier.word
  · rw [if_pos passed, ← Span.words_ofMillis, since]
    rw [Int64.lt_iff_toInt_lt, Int64.toInt_zero, difference, nearest] at passed
    have unsigned := toNat_toUInt64 (w := saturatingSub now.word earlier.word)
      (by rw [difference, nearest]; omega)
    rw [difference, nearest] at unsigned
    congr 2
    unfold longestStep
    omega
  · rw [if_neg passed]
    rw [Int64.lt_iff_toInt_lt, Int64.toInt_zero, difference, nearest] at passed
    have none : (now.millis - earlier.millis).toNat = 0 := by omega
    rw [since, none]
    rfl

theorem word_add (t : Instant) (s : Span) : (t + s).word = laterWord t.word s.words := by
  rw [word_eq_iff, laterWord, toInt_saturatingAdd, toInt_word, s.toInt_step]
  rfl

theorem word_sub (t : Instant) (s : Span) : (t - s).word = earlierWord t.word s.words := by
  rw [word_eq_iff, earlierWord, toInt_saturatingSub, toInt_word, s.toInt_step]
  rfl

end Instant

end Thermals.Time
