import Thermals.Proofs.Detection.Area
import Thermals.Proofs.Detection.Frozen
import Thermals.Proofs.Detection.Upkeep

namespace Thermals

open Time Traffic Geo Number

theorem Config.room_of_sound {config : Config} (sound : config.fault? = none) :
    2 ≤ config.positionHistorySize := by
  by_contra small
  unfold fault? at sound
  split at sound
  · cases sound
  · split at sound
    · cases sound
    · rw [if_pos (Nat.not_le.mp small)] at sound
      cases sound

namespace Detection

structure FitsKnown (window : Window Point) (maxDiameter : Float) : Prop where
  oldest : ∃ oldest, window.oldest? = some oldest ∧ oldest.hasNaN = false
  box : ∃ box : Box, box.Spans (known (window.items.map Point.longitude))
    (known (window.items.map Point.latitude)) ∧ box.southWest.distance box.northEast ≤ maxDiameter

theorem withinArea_iff_fitsKnown {window : Window Point} (long : 2 ≤ window.size)
    (maxDiameter : Float) : withinArea window maxDiameter = true ↔ FitsKnown window maxDiameter := by
  constructor
  · intro near
    obtain ⟨oldest, first⟩ := window.exists_oldest (Nat.lt_of_lt_of_le Nat.zero_lt_two long)
    obtain ⟨rest, items⟩ := List.head?_eq_some_iff.mp first
    cases unknown : oldest.hasNaN with
    | true =>
      rw [withinArea_of_nan long first unknown] at near
      cases near
    | false =>
      obtain ⟨box, -, spans⟩ := Box.enclosing?_of_known unknown rest
      rw [← items] at spans
      rw [withinArea_of_known long first unknown spans] at near
      exact ⟨⟨oldest, first, unknown⟩, box, spans, of_decide_eq_true near⟩
  · rintro ⟨⟨oldest, first, oldest_known⟩, box, spans, near⟩
    rw [withinArea_of_known long first oldest_known spans]
    exact decide_eq_true near

/-- A window that fits although its newest position is not known. -/
structure Overlooks (window : Window Point) (center : Point) (maxDiameter : Float) : Prop where
  newest : window.newest? = some center
  unknown : center.hasNaN = true
  long : 2 ≤ window.size
  fits : FitsKnown window maxDiameter

namespace Track

variable {config : Config} {now : Instant} {report : Report} {t : Track}

theorem withinArea_observe (coherent : t.Coherent) (room : 2 ≤ t.history.capacity)
    (circling : (t.observe config now report).phase = .circling) :
    2 ≤ (t.observe config now report).history.size ∧
      withinArea (t.observe config now report).history config.maxDiameter = true := by
  -- A target that may be circling was seen before, so the report that finds it so is not its first one.
  have accepted (active : t.phase ≠ .idle) (hit : circles config t.history report = true) :
      2 ≤ (noted t.history report).size ∧
        withinArea (noted t.history report) config.maxDiameter = true := by
    obtain ⟨turning, near⟩ := Bool.and_eq_true_iff.mp hit
    obtain ⟨location, -, pushed⟩ := noted_of_turns turning t.history
    rw [pushed] at near ⊢
    exact ⟨Window.two_le_size_push room (coherent.located active) location, near⟩
  generalize step : t.observe config now report = next at circling ⊢
  cases reaction step with
  | begins => cases circling
  | rests dormant => rcases dormant with phase | phase <;> cases phase.symm.trans circling
  | waits phase => cases phase.symm.trans circling
  | confirms phase hit => exact accepted (by rw [phase]; decide) hit
  | fails => cases circling
  | continues phase hit => exact accepted (by rw [phase]; decide) hit
  | stops => cases circling

theorem center_observe (stopped : (t.observe config now report).phase = .recentlyStopped) :
    (t.phase = .recentlyStopped ∨ t.phase = .circling) ∧
      (t.observe config now report).center = t.center := by
  rcases stopped_observe stopped with ⟨phase, straight⟩ | ⟨phase, miss⟩
  · rw [observe_dormant (.inr phase) straight]
    exact ⟨.inl phase, rfl⟩
  · rw [observe_stops phase miss]
    exact ⟨.inr phase, rfl⟩

end Track

namespace Detector

def reached (config : Config) (operations : List Operation) : Detector :=
  operations.foldl Operation.perform (start config)

def prior (config : Config) (operations : List Operation) (id : FlarmId) : Track :=
  Track.prior config id ((reached config operations).table.get? id)

theorem config_reached (config : Config) (operations : List Operation) :
    (reached config operations).config = config := config_foldl_perform operations (start config)

theorem coherent_reached (config : Config) (operations : List Operation) :
    (reached config operations).table.Coherent config.positionHistorySize := by
  have coherent := coherent_foldl_perform config operations
  dsimp only at coherent
  rw [config_foldl_perform] at coherent
  exact coherent

variable {config : Config} {operations : List Operation} {id : FlarmId} {track : Track}

theorem get?_reached_cases {operation : Operation}
    (held : (reached config (operations ++ [operation])).table.get? id = some track) :
    (reached config operations).table.get? id = some track ∨
      ∃ now report, track = (prior config operations id).observe config now report := by
  rw [reached, List.foldl_append, ← reached, List.foldl_cons, List.foldl_nil] at held
  cases operation with
  | update now report =>
    rw [Operation.perform, get?_update, config_reached] at held
    split at held
    · exact .inr ⟨now, report, (Option.some.inj held).symm⟩
    · exact .inl held
  | cleanup now =>
    rw [Operation.perform, cleanup, Table.get?_sweep, Option.filter_eq_some_iff] at held
    exact .inl held.1

theorem coherent_prior (config : Config) (operations : List Operation) (id : FlarmId) :
    (prior config operations id).Fits config.positionHistorySize id ∧
      (prior config operations id).Coherent := by
  obtain ⟨fits, coherent⟩ := (coherent_reached config operations).track id
  exact ⟨⟨rfl, fits.capacity⟩, coherent.withId id⟩

theorem get?_of_prior (active : (prior config operations id).phase ≠ .idle) :
    (reached config operations).table.get? id = some (prior config operations id) := by
  unfold prior at active ⊢
  cases held : (reached config operations).table.get? id with
  | none =>
    rw [held] at active
    exact absurd rfl active
  | some track => rw [Track.prior_some (coherent_reached config operations id track held).1.id]

theorem withinArea_reached (room : 2 ≤ config.positionHistorySize)
    (held : (reached config operations).table.get? id = some track)
    (circling : track.phase = .circling) :
    2 ≤ track.history.size ∧ withinArea track.history config.maxDiameter = true := by
  induction operations using List.reverseRecOn with
  | nil => cases held
  | append_singleton operations operation ih =>
    rcases get?_reached_cases held with before | ⟨now, report, rfl⟩
    · exact ih before
    · obtain ⟨fits, coherent⟩ := coherent_prior config operations id
      exact Track.withinArea_observe coherent (by rw [fits.capacity]; omega) circling

theorem center_reached (held : (reached config operations).table.get? id = some track)
    (confirmed : track.phase = .circling ∨ track.phase = .recentlyStopped) :
    ∃ earlier circling, earlier <+: operations ∧
      (reached config earlier).table.get? id = some circling ∧ circling.phase = .circling ∧
        circling.center = track.center := by
  -- From the end of the run: a circling entry is its own witness, a stopped one takes that of the entry
  -- it was before.
  induction operations using List.reverseRecOn generalizing track with
  | nil => cases held
  | append_singleton operations operation ih =>
    have extend {t : Track} (before : (reached config operations).table.get? id = some t)
        (confirmed : t.phase = .circling ∨ t.phase = .recentlyStopped)
        (same : t.center = track.center) :
        ∃ earlier circling, earlier <+: operations ++ [operation] ∧
          (reached config earlier).table.get? id = some circling ∧ circling.phase = .circling ∧
            circling.center = track.center := by
      obtain ⟨earlier, circling, part, found, phase, center⟩ := ih before confirmed
      exact ⟨earlier, circling, part.trans (List.prefix_append _ _), found, phase,
        center.trans same⟩
    rcases confirmed with phase | stopped
    · exact ⟨_, track, List.prefix_refl _, held, phase, rfl⟩
    · rcases get?_reached_cases held with before | ⟨now, report, rfl⟩
      · exact extend before (.inr stopped) rfl
      · obtain ⟨confirmed, same⟩ := Track.center_observe stopped
        have active : (prior config operations id).phase ≠ .idle := by
          rcases confirmed with phase | phase <;> rw [phase] <;> decide
        exact extend (get?_of_prior active) confirmed.symm same.symm

/-- The area check goes by the known coordinates behind an oldest position that is known. The center of a
thermal can be unknown only if a window was overlooked in this way, which had at least two positions. -/
theorem center_known_unless_overlooked (sound : config.fault? = none) (operations : List Operation) :
    (∀ window : Window Point, 2 ≤ window.size →
      (withinArea window config.maxDiameter = true ↔ FitsKnown window config.maxDiameter)) ∧
    ∀ id track, (reached config operations).table.get? id = some track →
      track.phase = .circling ∨ track.phase = .recentlyStopped →
      ∃ center, track.center = some center ∧
        (center.hasNaN = false ∨ ∃ earlier circling, earlier <+: operations ∧
          (reached config earlier).table.get? id = some circling ∧ circling.phase = .circling ∧
          circling.center = some center ∧
            Overlooks circling.history center config.maxDiameter) := by
  refine ⟨fun window long => withinArea_iff_fitsKnown long _, ?_⟩
  intro id track held confirmed
  obtain ⟨earlier, circling, part, found, phase, same⟩ := center_reached held confirmed
  obtain ⟨-, coherent⟩ := coherent_reached config earlier id circling found
  obtain ⟨center, located⟩ := Option.isSome_iff_exists.mp (coherent.confirmed (.inl phase))
  obtain ⟨long, near⟩ := withinArea_reached (Config.room_of_sound sound) found phase
  refine ⟨center, same.symm.trans located, ?_⟩
  cases unknown : center.hasNaN with
  | false => exact .inl rfl
  | true =>
    exact .inr ⟨earlier, circling, part, found, phase, located,
      (coherent.newest phase).trans located, unknown, long, (withinArea_iff_fitsKnown long _).mp near⟩

end Detector

namespace Glitch

def turn (seconds : Int) (longitude : Float) : Operation :=
  .update (.ofSeconds seconds)
    { id := Flight.target, location := some (Point.ofDegrees longitude 0.0), turnRate := some 20.0 }

def operations : List Operation := [turn 0 8.0, turn 45 nan]

def track? : Option Track := (Detector.reached {} operations).table.get? Flight.target

end Glitch

namespace Detector

theorem unknown_center_overlooked :
    ({} : Config).fault? = none ∧ ∃ track center, Glitch.track? = some track ∧
      track.phase = .circling ∧ track.center = some center ∧ center.hasNaN = true ∧
      ∃ earlier circling, earlier <+: Glitch.operations ∧
        (reached {} earlier).table.get? Flight.target = some circling ∧ circling.phase = .circling ∧
        circling.center = some center ∧ Overlooks circling.history center 1000.0 := by
  have sound : ({} : Config).fault? = none := by decide +kernel
  have observed : Glitch.track?.map (fun t => (t.phase, t.center.map Point.hasNaN)) =
      some (.circling, some true) := by decide +kernel
  obtain ⟨track, held, seen⟩ := Option.map_eq_some_iff.mp observed
  obtain ⟨phase, unknown⟩ := Prod.mk.inj seen
  obtain ⟨-, centers⟩ := center_known_unless_overlooked sound Glitch.operations
  obtain ⟨center, located, cause⟩ := centers Flight.target track held (.inl phase)
  rw [located, Option.map_some, Option.some.injEq] at unknown
  rw [unknown] at cause
  exact ⟨sound, track, center, held, phase, located, unknown, cause.resolve_left (by decide)⟩

/-- A thermal can be confirmed at a position of which no longitude is known. -/
theorem confirmed_at_unknown_position :
    ({} : Config).fault? = none ∧ Glitch.track?.map (fun t => (t.phase, t.center.map Point.hasNaN)) =
      some (.circling, some true) ∧
    Glitch.track?.map (fun t => (t.history.size, withinArea t.history 1000.0)) = some (2, true) := by
  refine ⟨?_, ?_, ?_⟩ <;> decide +kernel

end Detector
end Detection
end Thermals
