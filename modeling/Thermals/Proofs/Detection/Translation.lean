import Thermals.Proofs.Detection.Evidence
import Thermals.Proofs.Detection.Known

namespace Thermals

open Time Traffic

theorem Time.Instant.since_of_moved {now earlier later before : Instant} {shift : Int}
    (moved : later.millis = now.millis + shift) (other : before.millis = earlier.millis + shift) :
    later.since before = now.since earlier := by
  have difference : later.millis - before.millis = now.millis - earlier.millis := by omega
  rw [Instant.since, Instant.since, difference]

namespace Detection

variable {config : Config} {shift : Int} {now later : Instant} {report : Report}

structure Track.Moved (shift : Int) (s t : Track) : Prop where
  id : t.id = s.id
  phase : t.phase = s.phase
  center : t.center = s.center
  climb : t.climb = s.climb
  history : t.history = s.history
  updated : t.updated.millis = s.updated.millis + shift
  started : t.started.millis = s.started.millis + shift

/-- What is known of a target in a run and in the moved one. Nothing is known at no time in particular,
so there it is not moved. -/
inductive Track.Follows (shift : Int) : Track → Track → Prop
  | moved {s t : Track} (moved : s.Moved shift t) : Follows shift s t
  | still (t : Track) (idle : t.phase = .idle) : Follows shift t t

namespace Track

variable {s t : Track}

theorem Moved.isExpired_eq (moved : s.Moved shift t) (late : later.millis = now.millis + shift)
    (maxAge : Span) : t.isExpired later maxAge = s.isExpired now maxAge := by
  have age : t.age later = s.age now := Instant.since_of_moved late moved.updated
  rw [isExpired, isExpired, moved.phase, age]

theorem moved_of_begins (dormant : s.phase = .idle ∨ s.phase = .recentlyStopped)
    (other_dormant : t.phase = .idle ∨ t.phase = .recentlyStopped) (id : t.id = s.id)
    (history : t.history = s.history) (late : later.millis = now.millis + shift)
    (turning : turns config report = true) :
    (s.observe config now report).Moved shift (t.observe config later report) := by
  rw [observe_begins dormant turning, observe_begins other_dormant turning, history]
  exact ⟨id, rfl, rfl, rfl, rfl, late, late⟩

theorem Moved.observe (moved : s.Moved shift t) (late : later.millis = now.millis + shift)
    (report : Report) : (s.observe config now report).Moved shift (t.observe config later report) := by
  rcases s.dormant_or_circling with dormant | circling
  · have other_dormant : t.phase = .idle ∨ t.phase = .recentlyStopped := by rwa [moved.phase]
    cases turning : turns config report with
    | true => exact moved_of_begins dormant other_dormant moved.id moved.history late turning
    | false =>
      rw [observe_dormant dormant turning, observe_dormant other_dormant turning, moved.history]
      exact { moved with history := rfl }
  · have other_circling : t.phase = .potentiallyCircling ∨ t.phase = .circling := by
      rwa [moved.phase]
    cases hit : circles config s.history report with
    | true =>
      have other_hit : circles config t.history report = true := by rwa [moved.history]
      have since : later.since t.started = now.since s.started :=
        Instant.since_of_moved late moved.started
      rw [observe_circles circling hit rfl, observe_circles other_circling other_hit rfl,
        moved.phase, since, moved.history, moved.center, moved.climb]
      exact ⟨moved.id, rfl, rfl, rfl, rfl, late, moved.started⟩
    | false =>
      have other_miss : circles config t.history report = false := by rwa [moved.history]
      rcases circling with phase | phase
      · rw [observe_fails phase hit, observe_fails (moved.phase.trans phase) other_miss]
        exact ⟨moved.id, rfl, rfl, rfl, congrArg Window.clear moved.history, moved.updated,
          moved.started⟩
      · rw [observe_stops phase hit, observe_stops (moved.phase.trans phase) other_miss,
          moved.history]
        exact ⟨moved.id, rfl, moved.center, moved.climb, rfl, late, moved.started⟩

namespace Follows

theorem phase_eq (follows : s.Follows shift t) : s.phase = t.phase := by
  cases follows with
  | moved moved => exact moved.phase.symm
  | still => rfl

theorem moved_of_active (follows : s.Follows shift t) (active : s.phase ≠ .idle) :
    s.Moved shift t := by
  cases follows with
  | moved moved => exact moved
  | still idle => exact absurd idle active

theorem heard (follows : s.Follows shift t) (late : later.millis = now.millis + shift)
    (report : Option Report) :
    (s.heard config now report).Follows shift (t.heard config later report) := by
  cases report with
  | none => exact follows
  | some report =>
    cases follows with
    | moved moved => exact .moved (moved.observe late report)
    | still idle =>
      cases turning : turns config report with
      | true => exact .moved (moved_of_begins (Or.inl idle) (Or.inl idle) rfl rfl late turning)
      | false =>
        rw [Track.heard, Track.heard, observe_dormant (Or.inl idle) turning,
          observe_dormant (Or.inl idle) turning]
        exact .still _ idle

theorem swept (follows : s.Follows shift t) (late : later.millis = now.millis + shift) :
    (s.swept config now).Follows shift (t.swept config later) := by
  cases follows with
  | moved moved =>
    rw [Track.swept, Track.swept, moved.isExpired_eq late, moved.id]
    split
    · exact .still _ rfl
    · exact .moved moved
  | still idle =>
    have expired (now : Instant) : s.isExpired now config.maxRecentlyStoppedAge = true := by
      simp [isExpired, idle]
    rw [swept_of_expired (expired now), swept_of_expired (expired later)]
    exact .still _ rfl

end Follows
end Track

structure Tick.Moved (shift : Int) (tick later : Tick) : Prop where
  time : later.time.millis = tick.time.millis + shift
  roster : later.roster = tick.roster

namespace Detector

variable {ticks others : List Tick}

/-- A run that is moved in time finds and shows the same, moved in time. -/
theorem moved_with_ticks (moved : List.Forall₂ (Tick.Moved shift) ticks others) (config : Config)
    (id : FlarmId) :
    Option.Rel (Track.Moved shift) (tracked config ticks id) (tracked config others id) ∧
      Option.Rel (Track.Moved shift) (published config ticks id) (published config others id) := by
  have follows : (known config ticks id).Follows shift (known config others id) := by
    -- fresh tracks bear time zero in both runs, so they follow but are not moved
    apply known_related (Track.Follows shift) (.still _ rfl) ?_ moved
    intro s t tick later moved follows
    rw [moved.roster]
    exact (follows.heard moved.time _).swept moved.time
  exact tracked_rel_of_known follows.phase_eq follows.moved_of_active

theorem moved_across_the_range :
    let settings := { Flight.settings with minCirclingDuration := .ofMillis Instant.longestStep }
    let tick (millis : Int) : Tick :=
      ⟨.clamp millis, .ofList [Flight.sighted Flight.target 20.0 0.5]⟩
    let ticks := [tick (-0x8000000000000000), tick 0x7FFFFFFFFFFFFF00]
    let others := [tick (-0x8000000000000000 + 0xFF), tick (0x7FFFFFFFFFFFFF00 + 0xFF)]
    List.Forall₂ (Tick.Moved 0xFF) ticks others ∧
      ∃ shown other, published settings ticks Flight.target = some shown ∧
        published settings others Flight.target = some other ∧ shown.phase = .circling ∧
        shown.Moved 0xFF other := by
  intro settings tick ticks others
  have moved : List.Forall₂ (Tick.Moved 0xFF) ticks others :=
    .cons ⟨by decide, rfl⟩ (.cons ⟨by decide, rfl⟩ .nil)
  have phase : (published settings ticks Flight.target).map Track.phase = some .circling := by
    decide +kernel
  obtain ⟨shown, found, circling⟩ := Option.map_eq_some_iff.mp phase
  obtain ⟨-, related⟩ := moved_with_ticks moved settings Flight.target
  rw [found] at related
  generalize published settings others Flight.target = after at related ⊢
  cases related with
  | some same => exact ⟨moved, shown, _, found, rfl, circling, same⟩

end Detector
end Detection
end Thermals
