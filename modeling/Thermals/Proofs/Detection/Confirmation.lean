import Thermals.Proofs.Detection.Evidence
import Thermals.Proofs.Detection.Publication

namespace Thermals.Detection

open Time Traffic

/-- At no tick is the last report of a target so old that its track would be dropped. -/
def Timely (config : Config) (id : FlarmId) (first : Sighting) (after : List Tick) : Prop :=
  ∀ seen tick, seen ++ [tick] <+: after →
    tick.time.since ((sightings id (seen ++ [tick])).getLastD first).time ≤ config.maxEntryAge

theorem Evidence.kept {config : Config} {first : Sighting} {rest : List Sighting} {t : Track}
    {now : Instant} (evidence : Evidence config first rest t)
    (young : now.since (rest.getLastD first).time ≤ config.maxEntryAge) :
    t.isExpired now config.maxRecentlyStoppedAge = false := by
  rw [← evidence.updated] at young
  rw [Track.isExpired_eq_false_iff]
  refine ⟨?_, ?_, fun _ => young⟩ <;> rcases evidence.phase_cases with phase | phase <;>
    simp [phase]

theorem Evidence.circles_next {config : Config} {first : Sighting} {rest : List Sighting} {t : Track}
    {s : Sighting} (evidence : Evidence config first rest t)
    (sustained : Sustained config first (rest ++ [s])) :
    circles config t.history s.report = true := by
  obtain ⟨_, turning, near⟩ := sustained_append_singleton.mp sustained
  rw [circles, evidence.history, ← recent_append_singleton turning]
  exact Bool.and_eq_true_iff.mpr ⟨turning, near⟩

namespace Detector

variable {config : Config} {before after : List Tick} {start : Tick} {id : FlarmId} {report : Report}

theorem evidence_of_start
    (dormant : ∀ track, tracked config before id = some track → track.phase = .recentlyStopped)
    (reported : start.roster.find? id = some report) (turning : turns config report = true) :
    ∃ track, tracked config (before ++ [start]) id = some track ∧
      Evidence config ⟨start.time, report⟩ [] track := by
  have resting : (Track.prior config id (tracked config before id)).phase = .idle ∨
      (Track.prior config id (tracked config before id)).phase = .recentlyStopped := by
    cases held : tracked config before id with
    | none => exact Or.inl rfl
    | some track => exact Or.inr (dormant track held)
  have evidence := Evidence.begins (s := ⟨start.time, report⟩) resting turning
    (capacity_prior config before id)
  have kept := evidence.kept (Instant.since_self_le start.time config.maxEntryAge)
  exact ⟨_, tracked_of_reported reported kept, evidence⟩

theorem evidence_of_sustained
    (dormant : ∀ track, tracked config before id = some track → track.phase = .recentlyStopped)
    (reported : start.roster.find? id = some report) (turning : turns config report = true)
    (sustained : Sustained config ⟨start.time, report⟩ (sightings id after))
    (timely : Timely config id ⟨start.time, report⟩ after) {seen : List Tick}
    (part : seen <+: after) :
    ∃ track, tracked config (before ++ start :: seen) id = some track ∧
      Evidence config ⟨start.time, report⟩ (sightings id seen) track := by
  induction seen using List.reverseRecOn with
  | nil => exact evidence_of_start dormant reported turning
  | append_singleton seen tick ih =>
    obtain ⟨track, held, evidence⟩ := ih ((List.prefix_append _ _).trans part)
    have young := timely seen tick part
    have ticks : before ++ start :: (seen ++ [tick]) = before ++ start :: seen ++ [tick] := by simp
    rw [ticks]
    rw [sightings_append] at young ⊢
    cases found : tick.roster.find? id with
    | none =>
      rw [sightings_absent found, List.append_nil] at young ⊢
      exact ⟨track, tracked_of_absent held found (evidence.kept young), evidence⟩
    | some next =>
      have log : sightings id seen ++ [⟨tick.time, next⟩] <+: sightings id after := by
        rw [← sightings_reported found, ← sightings_append]
        exact part.filterMap _
      have sofar : Sustained config ⟨start.time, report⟩ (sightings id seen ++ [⟨tick.time, next⟩]) :=
        fun earlier s shorter => sustained earlier s (shorter.trans log)
      rw [sightings_reported found] at young ⊢
      have longer := evidence.extend (evidence.circles_next sofar)
      have kept := longer.kept young
      refine ⟨_, ?_, longer⟩
      rw [← prior_of_tracked held] at kept ⊢
      exact tracked_of_reported found kept

/-- As long as a target keeps circling it is tracked, and it is shown from the first report on that is
late enough, whatever the other targets do. -/
theorem confirmed_of_sustained
    (dormant : ∀ track, tracked config before id = some track → track.phase = .recentlyStopped)
    (reported : start.roster.find? id = some report) (turning : turns config report = true)
    (sustained : Sustained config ⟨start.time, report⟩ (sightings id after))
    (timely : Timely config id ⟨start.time, report⟩ after) :
    ∀ seen, seen <+: after → ∃ track,
      tracked config (before ++ start :: seen) id = some track ∧
      if (sightings id seen).any (lasted config start.time) then
        track.phase = .circling ∧ published config (before ++ start :: seen) id = some track
      else
        track.phase = .potentiallyCircling ∧ published config (before ++ start :: seen) id = none := by
  intro seen part
  obtain ⟨track, held, evidence⟩ :=
    evidence_of_sustained dormant reported turning sustained timely part
  have phase := evidence.phase
  refine ⟨track, held, ?_⟩
  rw [published_eq_filter_tracked, held]
  cases late : (sightings id seen).any (lasted config start.time) with
  | true =>
    rw [late, if_pos rfl] at phase
    simp [phase]
  | false =>
    rw [late, if_neg Bool.false_ne_true] at phase
    simp [phase]

theorem confirmed_of_second_thermal :
    let first : Sighting := ⟨Flight.entry.time, Flight.sighted Flight.target 20.0 1.0⟩
    let ticks := Flight.opening ++ Flight.entry :: Flight.turning
    Sustained Flight.settings first (sightings Flight.target Flight.turning) ∧
      Timely Flight.settings Flight.target first Flight.turning ∧
      ∃ track, tracked Flight.settings ticks Flight.target = some track ∧ track.phase = .circling ∧
        published Flight.settings ticks Flight.target = some track := by
  intro first ticks
  have dormant (track : Track)
      (held : tracked Flight.settings Flight.opening Flight.target = some track) :
      track.phase = .recentlyStopped := by
    have phase : (tracked Flight.settings Flight.opening Flight.target).map Track.phase =
        some .recentlyStopped := by decide +kernel
    rw [held] at phase
    exact Option.some.inj phase
  have sustained : Sustained Flight.settings first (sightings Flight.target Flight.turning) := by
    have log : sightings Flight.target Flight.turning =
        [] ++ [⟨.ofSeconds 7, Flight.sighted Flight.target (-20.0) 1.5⟩] ++
          [⟨.ofSeconds 8, Flight.sighted Flight.target 20.0 2.5⟩] := by decide +kernel
    rw [log, sustained_append_singleton, sustained_append_singleton]
    exact ⟨⟨sustained_nil _ _, by decide +kernel⟩, by decide +kernel⟩
  have timely : Timely Flight.settings Flight.target first Flight.turning := by
    have log : Flight.turning = [] ++ [Flight.turning[0]] ++ [Flight.turning[1]] ++
        [Flight.turning[2]] := rfl
    rw [Timely, log, forall_prefix_append_singleton, forall_prefix_append_singleton,
      forall_prefix_append_singleton]
    exact ⟨⟨⟨forall_prefix_nil, by decide +kernel⟩, by decide +kernel⟩, by decide +kernel⟩
  have late : (sightings Flight.target Flight.turning).any
      (lasted Flight.settings Flight.entry.time) = true := by decide +kernel
  obtain ⟨track, held, shown⟩ := confirmed_of_sustained dormant rfl (by decide +kernel) sustained
    timely Flight.turning (List.prefix_refl _)
  rw [if_pos late] at shown
  exact ⟨sustained, timely, track, held, shown⟩

end Detector
end Thermals.Detection
