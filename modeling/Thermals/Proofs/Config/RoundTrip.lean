import Thermals.Proofs.Config.Text
import Thermals.Proofs.Number.Binary64
import Thermals.Replay

namespace Thermals.Config

open Text Number Time Draft

theorem finite_of_fit {c : Config} (fit : c.fault? = none) :
    c.minTurnRate.isFinite = true ∧ c.maxDiameter.isFinite = true := by
  unfold fault? at fit
  split at fit
  · cases fit
  · rename_i rate
    split at fit
    · cases fit
    · rename_i diameter
      exact ⟨(not_not.mp rate).1, (not_not.mp diameter).1⟩

theorem load_text {c : Config} (fit : c.fault? = none) (size : c.positionHistorySize < 2 ^ 64)
    (rate : float? (numberStyle.write c.minTurnRate).toList = some c.minTurnRate)
    (diameter : float? (numberStyle.write c.maxDiameter).toList = some c.maxDiameter) :
    Config.load c.text =
      if c.minCirclingDuration.InMicroseconds ∨ c.maxRecentlyStoppedAge.InMicroseconds then
        .error .settings
      else .ok c := by
  obtain ⟨rate_finite, diameter_finite⟩ := finite_of_fit fit
  obtain ⟨_, _, exactRate⟩ := isFinite_iff.mp rate_finite
  obtain ⟨_, _, exactDiameter⟩ := isFinite_iff.mp diameter_finite
  have parsed := parse?_text (readsAs_fields exactRate exactDiameter rate diameter size)
  have valid : c.validate = .ok c := by rw [validate, fit]
  by_cases micros : c.minCirclingDuration.InMicroseconds ∨ c.maxRecentlyStoppedAge.InMicroseconds
  · rw [if_pos micros] at parsed
    rw [Config.load, parsed, if_pos micros]
  · rw [if_neg micros] at parsed
    rw [Config.load, parsed, if_neg micros]
    exact congrArg (Except.mapError Fault.config) valid

/-- Every span and all fit settings are read back as they were, except where a span is written in
microseconds. Sizes are of 64 binary digits, and the two numbers have to come back from texts of their
own. -/
theorem read_back_unless_in_microseconds (d : Span) (c : Config) :
    (Span.parse d.text = if d.InMicroseconds then .error (.unknownUnit "µs") else .ok d) ∧
    (c.fault? = none → c.positionHistorySize < 2 ^ 64 →
      float? (numberStyle.write c.minTurnRate).toList = some c.minTurnRate →
      float? (numberStyle.write c.maxDiameter).toList = some c.maxDiameter →
      Config.load c.text =
        if c.minCirclingDuration.InMicroseconds ∨ c.maxRecentlyStoppedAge.InMicroseconds then
          .error .settings
        else .ok c) := by
  constructor
  · exact d.parse_text
  · intro fit size rate diameter
    exact load_text fit size rate diameter

def fractional : Config where
  minTurnRate := 12.5
  minCirclingDuration := Span.saturate 30250000000
  maxRecentlyStoppedAge := Span.saturate 1500000

theorem fractional_read_back : Config.load fractional.text = .ok fractional :=
  (read_back_unless_in_microseconds fractional.minCirclingDuration fractional).2
    (by decide +kernel) (by decide +kernel) (by decide +kernel) (by decide +kernel)

theorem microseconds_not_read_back :
    (Span.saturate 1500).text = "1.5µs" ∧ Span.parse "1.5µs" = .error (.unknownUnit "µs") ∧
    ∃ c : Config, c.minCirclingDuration = Span.saturate 1500 ∧ c.validate = .ok c ∧
      Config.load c.text = .error .settings := by
  have text : (Span.saturate 1500).text = "1.5µs" := by decide +kernel
  have micros : (Span.saturate 1500).InMicroseconds := by decide +kernel
  have refused := Span.parse_text (Span.saturate 1500)
  rw [if_pos micros, text] at refused
  refine ⟨text, refused, { fractional with minCirclingDuration := Span.saturate 1500 }, rfl, ?_, ?_⟩
  · decide +kernel
  · rw [load_text (by decide +kernel) (by decide +kernel) (by decide +kernel) (by decide +kernel)]
    exact if_pos (Or.inl micros)

end Thermals.Config
