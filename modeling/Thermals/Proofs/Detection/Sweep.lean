import Thermals.Proofs.Detection.Table
import Thermals.Proofs.Detection.Publication

namespace Thermals.Detection

open Time Traffic

namespace Track

theorem isExpired_max (t : Track) (a b : Instant) (maxAge : Span) :
    t.isExpired (max a b) maxAge = (t.isExpired a maxAge || t.isExpired b maxAge) := by
  by_cases le : a ≤ b
  · rw [Instant.max_of_le le]
    cases late : t.isExpired b maxAge with
    | true => rw [Bool.or_true]
    | false => rw [kept_mono le (Nat.le_refl _) late, Bool.or_false]
  · have less : b < a := Int.not_le.mp le
    rw [Instant.max_of_lt less]
    cases late : t.isExpired a maxAge with
    | true => rw [Bool.true_or]
    | false => rw [kept_mono (Int.le_of_lt less) (Nat.le_refl _) late, Bool.or_false]

theorem kept_before_update {t : Track} {now : Instant} (active : t.phase ≠ .idle)
    (le : now ≤ t.updated) (maxAge : Span) : t.isExpired now maxAge = false := by
  rw [isExpired_eq_false_iff]
  exact ⟨active, fun _ => Instant.since_later_le le _, fun _ => Instant.since_later_le le _⟩

end Track

namespace Table

variable (t : Table) (a b : Instant) (maxAge : Span)

theorem get?_sweep_eq_some_iff (id : FlarmId) (track : Track) :
    (t.sweep a maxAge).get? id = some track ↔
      t.get? id = some track ∧ track.isExpired a maxAge = false := by
  rw [get?_sweep, Option.filter_eq_some_iff, Bool.not_eq_true']

theorem sweep_sweep : (t.sweep a maxAge).sweep b maxAge = t.sweep (max a b) maxAge := by
  apply eq_of_get?
  intro id
  rw [get?_sweep, get?_sweep, get?_sweep, Option.filter_filter]
  congr 1
  funext track
  rw [track.isExpired_max, Bool.not_or]

theorem dropped_add_size : t.dropped a maxAge + (t.sweep a maxAge).size = t.size := by
  have fewer : (t.sweep a maxAge).size ≤ t.size := List.length_filter_le _ _
  rw [dropped, Nat.sub_add_cancel fewer]

/-- Sweeps at two times, whichever is first, do what one at the later time does. None drops a track before
its last update, unless that is idle. -/
theorem sweeps_compose :
    (t.sweep a maxAge).sweep b maxAge = t.sweep (max a b) maxAge ∧
    (∀ id track, (t.sweep (max a b) maxAge).get? id = some track ↔
      t.get? id = some track ∧ track.isExpired a maxAge = false ∧ track.isExpired b maxAge = false) ∧
    t.dropped a maxAge + (t.sweep a maxAge).dropped b maxAge = t.dropped (max a b) maxAge ∧
    t.dropped (max a b) maxAge + (t.sweep (max a b) maxAge).size = t.size ∧
    ((t.sweep a maxAge).sweep a maxAge = t.sweep a maxAge ∧ (t.sweep a maxAge).dropped a maxAge = 0) ∧
    ∀ id track, t.get? id = some track → track.phase ≠ .idle → a ≤ track.updated →
      (t.sweep a maxAge).get? id = some track := by
  have first := t.dropped_add_size a maxAge
  have second := (t.sweep a maxAge).dropped_add_size b maxAge
  have single := t.dropped_add_size (max a b) maxAge
  have again : (t.sweep a maxAge).sweep a maxAge = t.sweep a maxAge := by
    rw [sweep_sweep, Instant.max_of_le (Int.le_refl a.millis)]
  rw [sweep_sweep] at second
  refine ⟨t.sweep_sweep a b maxAge, ?_, by omega, single, ⟨again, ?_⟩, ?_⟩
  · intro id track
    rw [get?_sweep_eq_some_iff, track.isExpired_max, Bool.or_eq_false_iff]
  · rw [dropped, again, Nat.sub_self]
  · intro id track held active early
    exact (t.get?_sweep_eq_some_iff a maxAge id track).mpr
      ⟨held, Track.kept_before_update active early maxAge⟩

end Table
end Thermals.Detection
