import Thermals.Proofs.Detection.Evidence
import Thermals.Proofs.Detection.Publication

namespace Thermals.Detection

open Time Traffic

/-- The report at `stop` ends the circling of `held`, no later report begins it again, and since then
no more time has passed than stopped thermals are shown for. -/
structure Frozen (config : Config) (id : FlarmId) (before : List Tick) (stop : Tick)
    (after : List Tick) (held : Track) : Prop where
  tracked : Detector.tracked config before id = some held
  circling : held.phase = .circling
  missed : ∃ report, stop.roster.find? id = some report ∧ circles config held.history report = false
  quiet : ∀ s ∈ sightings id after, turns config s.report = false
  recent : ∀ tick ∈ stop :: after, tick.time.since stop.time ≤ config.maxRecentlyStoppedAge

def Track.stopped (held : Track) (now : Instant) (history : Window Geo.Point) : Track :=
  { held with phase := .recentlyStopped, updated := now, history := history }

theorem Track.kept_stopped {held : Track} {stop now : Instant} {history : Window Geo.Point}
    {maxAge : Span} (young : now.since stop ≤ maxAge) :
    (held.stopped stop history).isExpired now maxAge = false := by
  rw [isExpired_eq_false_iff]
  refine ⟨by simp [stopped], fun _ => young, ?_⟩
  intro busy
  rcases busy with phase | phase <;> cases phase

theorem Track.stopped_observe {config : Config} {now : Instant} {report : Report} {t : Track}
    (stopped : (t.observe config now report).phase = .recentlyStopped) :
    (t.phase = .recentlyStopped ∧ turns config report = false) ∨
      (t.phase = .circling ∧ circles config t.history report = false) := by
  generalize step : t.observe config now report = next at stopped
  cases reaction step with
  | begins => cases stopped
  | rests _ straight => exact Or.inl ⟨stopped, straight⟩
  | waits phase => cases phase.symm.trans stopped
  | confirms => cases stopped
  | fails => cases stopped
  | continues phase => cases phase.symm.trans stopped
  | stops phase miss => exact Or.inr ⟨phase, miss⟩

variable {config : Config} {id : FlarmId} {before after : List Tick} {stop tick : Tick} {held : Track}

theorem Frozen.of_prefix (frozen : Frozen config id before stop after held) {seen : List Tick}
    (part : seen <+: after) : Frozen config id before stop seen held := by
  refine ⟨frozen.tracked, frozen.circling, frozen.missed, ?_, ?_⟩
  · intro s member
    exact frozen.quiet s ((part.filterMap _).subset member)
  · intro tick member
    rcases List.mem_cons.mp member with rfl | member
    · exact frozen.recent tick List.mem_cons_self
    · exact frozen.recent tick (List.mem_cons_of_mem _ (part.subset member))

theorem Frozen.extend (frozen : Frozen config id before stop after held)
    (quiet : ∀ s ∈ sightings id [tick], turns config s.report = false)
    (young : tick.time.since stop.time ≤ config.maxRecentlyStoppedAge) :
    Frozen config id before stop (after ++ [tick]) held := by
  refine ⟨frozen.tracked, frozen.circling, frozen.missed, ?_, ?_⟩
  · intro s member
    rw [sightings_append] at member
    rcases List.mem_append.mp member with member | member
    · exact frozen.quiet s member
    · exact quiet s member
  · intro other member
    rw [← List.cons_append] at member
    rcases List.mem_append.mp member with member | member
    · exact frozen.recent other member
    · rw [List.mem_singleton.mp member]
      exact young

namespace Detector

variable {ticks : List Tick} {now : Instant} {history : Window Geo.Point} {track : Track}

theorem tracked_of_stop (held_before : tracked config before id = some held)
    (circling : held.phase = .circling) {report : Report}
    (reported : stop.roster.find? id = some report)
    (miss : circles config held.history report = false) :
    tracked config (before ++ [stop]) id =
      some (held.stopped stop.time (noted held.history report)) := by
  have step : (Track.prior config id (tracked config before id)).observe config stop.time report =
      held.stopped stop.time (noted held.history report) := by
    rw [prior_of_tracked held_before]
    exact Track.observe_stops circling miss
  rw [← step]
  apply tracked_of_reported reported
  rw [step]
  exact Track.kept_stopped (Instant.since_self_le _ _)

theorem tracked_of_quiet (stopped : tracked config ticks id = some (held.stopped now history))
    (quiet : ∀ s ∈ sightings id [tick], turns config s.report = false)
    (young : tick.time.since now ≤ config.maxRecentlyStoppedAge) :
    ∃ history, tracked config (ticks ++ [tick]) id = some (held.stopped now history) := by
  cases found : tick.roster.find? id with
  | none => exact ⟨history, tracked_of_absent stopped found (Track.kept_stopped young)⟩
  | some report =>
    have straight : turns config report = false := by
      apply quiet ⟨tick.time, report⟩
      rw [sightings_reported found]
      exact List.mem_singleton_self _
    have step : (Track.prior config id (tracked config ticks id)).observe config tick.time report =
        held.stopped now (noted history report) := by
      rw [prior_of_tracked stopped]
      exact Track.observe_dormant (Or.inr rfl) straight
    refine ⟨noted history report, ?_⟩
    rw [← step]
    apply tracked_of_reported found
    rw [step]
    exact Track.kept_stopped young

theorem tracked_of_frozen (frozen : Frozen config id before stop after held) :
    ∃ history, tracked config (before ++ stop :: after) id =
      some (held.stopped stop.time history) := by
  induction after using List.reverseRecOn with
  | nil =>
    obtain ⟨report, reported, miss⟩ := frozen.missed
    exact ⟨_, tracked_of_stop frozen.tracked frozen.circling reported miss⟩
  | append_singleton after tick ih =>
    obtain ⟨history, stopped⟩ := ih (frozen.of_prefix (List.prefix_append _ _))
    have quiet : ∀ s ∈ sightings id [tick], turns config s.report = false := by
      intro s member
      apply frozen.quiet s
      rw [sightings_append]
      exact List.mem_append_right _ member
    rw [← List.cons_append, ← List.append_assoc]
    exact tracked_of_quiet stopped quiet (frozen.recent tick (by simp))

theorem frozen_append_singleton (found : ∃ before stop after held, ticks = before ++ stop :: after ∧
      Frozen config id before stop after held)
    (known : tracked config ticks id = some track)
    (quiet : ∀ s ∈ sightings id [tick], turns config s.report = false)
    (young : tick.time.since track.updated ≤ config.maxRecentlyStoppedAge) :
    ∃ before stop after held, ticks ++ [tick] = before ++ stop :: after ∧
      Frozen config id before stop after held := by
  obtain ⟨before, stop, after, held, rfl, frozen⟩ := found
  obtain ⟨history, kept⟩ := tracked_of_frozen frozen
  have updated : track.updated = stop.time := by
    rw [Option.some.inj (known.symm.trans kept)]
    rfl
  rw [updated] at young
  exact ⟨before, stop, after ++ [tick], held, by simp, frozen.extend quiet young⟩

theorem frozen_of_tracked (held_after : tracked config ticks id = some track)
    (stopped : track.phase = .recentlyStopped) :
    ∃ before stop after held, ticks = before ++ stop :: after ∧
      Frozen config id before stop after held := by
  induction ticks using List.reverseRecOn generalizing track with
  | nil => cases held_after
  | append_singleton ticks tick ih =>
    have young := ((track.isExpired_eq_false_iff _ _).mp (kept_of_tracked held_after)).2.1 stopped
    rcases tracked_cases held_after with ⟨absent, held_before⟩ | ⟨report, found, rfl⟩
    · apply frozen_append_singleton (ih held_before stopped) held_before ?_ young
      intro s member
      rw [sightings_absent absent] at member
      cases member
    · rcases Track.stopped_observe stopped with ⟨rest, straight⟩ | ⟨circling, miss⟩
      · have known : tracked config ticks id = some _ := tracked_of_prior (by rw [rest]; decide)
        rw [Track.observe_dormant (Or.inr rest) straight] at young
        apply frozen_append_singleton (ih known rest) known ?_ young
        intro s member
        rw [sightings_reported found] at member
        rw [List.mem_singleton.mp member]
        exact straight
      · have known : tracked config ticks id = some _ := tracked_of_prior (by rw [circling]; decide)
        refine ⟨ticks, tick, [], _, rfl, known, circling, ⟨report, found, miss⟩, ?_, ?_⟩
        · intro s member
          cases member
        · intro other member
          rw [List.mem_singleton.mp member]
          exact Instant.since_self_le _ _

/-- A target is tracked as stopped just as long as its thermal is frozen, and all the while the thermal
is shown as it was before the stop. -/
theorem recentlyStopped_iff_frozen (config : Config) (ticks : List Tick) (id : FlarmId) :
    ((∃ track, tracked config ticks id = some track ∧ track.phase = .recentlyStopped) ↔
      ∃ before stop after held, ticks = before ++ stop :: after ∧
        Frozen config id before stop after held) ∧
    ∀ before stop after held, ticks = before ++ stop :: after →
      Frozen config id before stop after held → ∀ seen, seen <+: after →
        ∃ history, published config (before ++ stop :: seen) id = some
          { held with phase := .recentlyStopped, updated := stop.time, history := history } := by
  refine ⟨⟨?_, ?_⟩, ?_⟩
  · intro known
    obtain ⟨track, held, stopped⟩ := known
    exact frozen_of_tracked held stopped
  · intro known
    obtain ⟨before, stop, after, held, rfl, frozen⟩ := known
    obtain ⟨history, stopped⟩ := tracked_of_frozen frozen
    exact ⟨_, stopped, rfl⟩
  · intro before stop after held _ frozen seen part
    obtain ⟨history, stopped⟩ := tracked_of_frozen (frozen.of_prefix part)
    refine ⟨history, ?_⟩
    rw [published_eq_filter_tracked, stopped]
    rfl

theorem second_thermal_frozen :
    let before := Flight.opening ++ Flight.entry :: Flight.turning
    ∃ held, Frozen Flight.settings Flight.target before Flight.glide Flight.descent held ∧
      ∃ history, published Flight.settings (before ++ Flight.glide :: Flight.descent) Flight.target =
        some { held with
          phase := .recentlyStopped, updated := Flight.glide.time, history := history } := by
  intro before
  have phase : (tracked Flight.settings before Flight.target).map Track.phase = some .circling := by
    decide +kernel
  obtain ⟨held, known, circling⟩ := Option.map_eq_some_iff.mp phase
  have frozen : Frozen Flight.settings Flight.target before Flight.glide Flight.descent held :=
    ⟨known, circling, ⟨{ id := Flight.target }, rfl, rfl⟩, by decide +kernel, by decide +kernel⟩
  have shown := (recentlyStopped_iff_frozen Flight.settings _ Flight.target).2 before Flight.glide
    Flight.descent held rfl frozen Flight.descent (List.prefix_refl _)
  exact ⟨held, frozen, shown⟩

end Detector
end Thermals.Detection
