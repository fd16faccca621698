import Thermals.Proofs.Detection.Target
import Thermals.Proofs.Detection.Transition

namespace Thermals.Detection

open Time Geo Traffic

theorem forall_prefix_nil {α : Type} {P : List α → α → Prop} :
    ∀ earlier a, earlier ++ [a] <+: [] → P earlier a := by
  intro earlier a shorter
  simp at shorter

theorem forall_prefix_append_singleton {α : Type} {P : List α → α → Prop} {items : List α} {x : α} :
    (∀ earlier a, earlier ++ [a] <+: items ++ [x] → P earlier a) ↔
      (∀ earlier a, earlier ++ [a] <+: items → P earlier a) ∧ P items x := by
  constructor
  · intro all
    refine ⟨?_, all items x (List.prefix_refl _)⟩
    intro earlier a shorter
    exact all earlier a (shorter.trans (List.prefix_append _ _))
  · intro h earlier a shorter
    obtain ⟨all, last⟩ := h
    rcases List.prefix_concat_iff.mp shorter with whole | shorter
    · obtain ⟨rfl, same⟩ := List.append_inj' whole rfl
      obtain rfl := List.singleton_inj.mp same
      exact last
    · exact all earlier a shorter

def recent (config : Config) (log : List Sighting) : Window Point :=
  .last config.positionHistorySize (log.filterMap fun s => s.report.location)

theorem recent_append_singleton {config : Config} {s : Sighting}
    (turning : turns config s.report = true) (log : List Sighting) :
    recent config (log ++ [s]) = noted (recent config log) s.report := by
  obtain ⟨location, located, pushed⟩ := noted_of_turns turning (recent config log)
  rw [pushed]
  simp [recent, Window.push_last, located]

def lasted (config : Config) (start : Instant) (s : Sighting) : Bool :=
  config.minCirclingDuration ≤ s.time.since start

def confirming (config : Config) (start : Instant) (rest : List Sighting) : List Sighting :=
  rest.dropWhile fun s => !lasted config start s

theorem confirming_append_singleton (config : Config) (start : Instant) (rest : List Sighting)
    (s : Sighting) :
    confirming config start (rest ++ [s]) =
      confirming config start rest ++ if (rest ++ [s]).any (lasted config start) then [s] else [] := by
  induction rest with
  | nil => cases late : lasted config start s <;> simp [confirming, late]
  | cons head rest ih =>
    cases late : lasted config start head with
    | true => simp [confirming, late]
    | false => simpa [confirming, late] using ih

def climbOf (log : List Sighting) : Climb :=
  log.foldl (fun climb s => climb.addKnown s.report.climbRate) .none

theorem climbOf_append_singleton (log : List Sighting) (s : Sighting) :
    climbOf (log ++ [s]) = (climbOf log).addKnown s.report.climbRate := by
  rw [climbOf, List.foldl_append]
  rfl

/-- Each of the reports after the first one turns, with the last positions up to it within the area. -/
def Sustained (config : Config) (first : Sighting) (rest : List Sighting) : Prop :=
  ∀ earlier s, earlier ++ [s] <+: rest → turns config s.report = true ∧
    withinArea (recent config (first :: (earlier ++ [s]))) config.maxDiameter = true

theorem sustained_nil (config : Config) (first : Sighting) : Sustained config first [] :=
  forall_prefix_nil

theorem sustained_append_singleton {config : Config} {first s : Sighting} {rest : List Sighting} :
    Sustained config first (rest ++ [s]) ↔ Sustained config first rest ∧
      turns config s.report = true ∧
        withinArea (recent config (first :: (rest ++ [s]))) config.maxDiameter = true :=
  forall_prefix_append_singleton

/-- A track whose target has kept circling since the report `first`, with `rest` after it. -/
structure Evidence (config : Config) (first : Sighting) (rest : List Sighting) (track : Track) :
    Prop where
  turns : turns config first.report = true
  sustained : Sustained config first rest
  phase : track.phase =
    if rest.any (lasted config first.time) then .circling else .potentiallyCircling
  started : track.started = first.time
  updated : track.updated = (rest.getLastD first).time
  history : track.history = recent config (first :: rest)
  center : track.phase = .circling → track.center = (rest.getLastD first).report.location
  climb : track.climb = climbOf (confirming config first.time rest)

namespace Evidence

variable {config : Config} {s : Sighting} {t : Track}

theorem begins (dormant : t.phase = .idle ∨ t.phase = .recentlyStopped)
    (turning : Detection.turns config s.report = true)
    (capacity : t.history.capacity = max config.positionHistorySize 1) :
    Evidence config s [] (t.observe config s.time s.report) := by
  have history : noted t.history.clear s.report = recent config [s] := by
    rw [Window.clear_eq_last_nil _ _ capacity]
    exact (recent_append_singleton turning []).symm
  rw [Track.observe_begins dormant turning, history]
  refine ⟨turning, ?_, rfl, rfl, rfl, rfl, ?_, rfl⟩
  · exact sustained_nil config s
  · intro phase
    cases phase

theorem phase_cases {first : Sighting} {rest : List Sighting} (evidence : Evidence config first rest t) :
    t.phase = .potentiallyCircling ∨ t.phase = .circling := by
  rw [evidence.phase]
  split
  · exact Or.inr rfl
  · exact Or.inl rfl

theorem observe_eq {first : Sighting} {rest : List Sighting} (evidence : Evidence config first rest t)
    (hit : circles config t.history s.report = true) :
    let late := (rest ++ [s]).any (lasted config first.time)
    t.observe config s.time s.report =
      { t with
        phase := if late then .circling else .potentiallyCircling
        center := if late then s.report.location else t.center
        climb := if late then t.climb.addKnown s.report.climbRate else t.climb
        updated := s.time
        history := noted t.history s.report } := by
  have counts : (rest ++ [s]).any (lasted config first.time) =
      (t.phase = .circling || config.minCirclingDuration ≤ s.time.since t.started) := by
    rw [List.any_append, evidence.started, evidence.phase]
    cases late : rest.any (lasted config first.time) <;> simp [lasted]
  exact Track.observe_circles evidence.phase_cases hit counts

theorem extend {first : Sighting} {rest : List Sighting} (evidence : Evidence config first rest t)
    (hit : circles config t.history s.report = true) :
    Evidence config first (rest ++ [s]) (t.observe config s.time s.report) := by
  obtain ⟨turning, near⟩ := Bool.and_eq_true_iff.mp hit
  have history : noted t.history s.report = recent config (first :: (rest ++ [s])) := by
    rw [evidence.history]
    exact (recent_append_singleton turning (first :: rest)).symm
  have sustained : Sustained config first (rest ++ [s]) := by
    rw [history] at near
    exact sustained_append_singleton.mpr ⟨evidence.sustained, turning, near⟩
  have last : (rest ++ [s]).getLastD first = s := by simp
  have counted := confirming_append_singleton config first.time rest s
  rw [evidence.observe_eq hit, history]
  refine ⟨evidence.turns, sustained, rfl, evidence.started, ?_, rfl, ?_, ?_⟩
  · rw [last]
  · intro circling
    cases late : (rest ++ [s]).any (lasted config first.time) with
    | true => simp only [if_true, last]
    | false => simp only [late, Bool.false_eq_true, if_false, reduceCtorEq] at circling
  · cases late : (rest ++ [s]).any (lasted config first.time) with
    | true =>
      rw [late, if_pos rfl] at counted
      rw [counted, climbOf_append_singleton, ← evidence.climb]
      rfl
    | false =>
      rw [late, if_neg Bool.false_ne_true, List.append_nil] at counted
      rw [counted]
      exact evidence.climb

end Evidence

-- A flight with two thermals at one place on the equator, where distances are exact.
namespace Flight

def settings : Config where
  minCirclingDuration := .ofSeconds 2
  maxRecentlyStoppedAge := .ofSeconds 10
  positionHistorySize := 3

def target : FlarmId := ⟨0xDD8F12, by decide⟩

def other : FlarmId := ⟨0x3F0001, by decide⟩

def sighted (id : FlarmId) (turnRate climbRate : Float) : Report :=
  { id, location := some ⟨8.5, 0.0⟩, turnRate := some turnRate, climbRate := some climbRate }

def tick (seconds : Int) (reports : List Report) : Tick := ⟨.ofSeconds seconds, .ofList reports⟩

def opening : List Tick :=
  [tick 0 [sighted target 20.0 0.5, sighted other 20.0 0.5], tick 2 [sighted target 20.0 0.5],
    tick 3 [sighted target 3.0 0.5], tick 4 [sighted target 3.0 0.5]]

def entry : Tick := tick 5 [sighted target 20.0 1.0]

def turning : List Tick :=
  [tick 6 [sighted other 20.0 0.5], tick 7 [sighted target (-20.0) 1.5, sighted other 3.0 0.5],
    tick 8 [sighted target 20.0 2.5]]

def glide : Tick := tick 9 [{ id := target }]

def descent : List Tick := [tick 12 [sighted target 3.0 0.5], tick 19 []]

end Flight

namespace Detector

/-- Whatever is found circling has the evidence for it, from some report on to the last one. -/
theorem evidence_of_circling {config : Config} {ticks : List Tick} {id : FlarmId} {track : Track}
    (held : tracked config ticks id = some track)
    (circling : track.phase = .potentiallyCircling ∨ track.phase = .circling) :
    ∃ before start after report, ticks = before ++ start :: after ∧
      start.roster.find? id = some report ∧
      Evidence config ⟨start.time, report⟩ (sightings id after) track := by
  induction ticks using List.reverseRecOn generalizing track with
  | nil => cases held
  | append_singleton ticks tick ih =>
    rcases tracked_cases held with ⟨absent, held⟩ | ⟨report, reported, rfl⟩
    · obtain ⟨before, start, after, report, rfl, found, evidence⟩ := ih held circling
      refine ⟨before, start, after ++ [tick], report, by simp, found, ?_⟩
      rw [sightings_append, sightings_absent absent, List.append_nil]
      exact evidence
    · rcases Track.circling_observe circling with ⟨dormant, turning⟩ | ⟨busy, hit⟩
      · refine ⟨ticks, tick, [], report, rfl, reported, ?_⟩
        exact Evidence.begins (s := ⟨tick.time, report⟩) dormant turning
          (capacity_prior config ticks id)
      · have known : (Track.prior config id (tracked config ticks id)).phase ≠ .idle := by
          rcases busy with phase | phase <;> rw [phase] <;> decide
        obtain ⟨before, start, after, first, rfl, found, evidence⟩ :=
          ih (tracked_of_prior known) busy
        refine ⟨before, start, after ++ [tick], first, by simp, found, ?_⟩
        rw [sightings_append, sightings_reported reported]
        exact evidence.extend (s := ⟨tick.time, report⟩) hit

theorem evidence_of_second_thermal :
    let ticks := Flight.opening ++ Flight.entry :: Flight.turning
    ∃ track, tracked Flight.settings ticks Flight.target = some track ∧ track.phase = .circling ∧
      ∃ before start after report, ticks = before ++ start :: after ∧
        start.roster.find? Flight.target = some report ∧
        Evidence Flight.settings ⟨start.time, report⟩ (sightings Flight.target after) track := by
  intro ticks
  have phase : (tracked Flight.settings ticks Flight.target).map Track.phase = some .circling := by
    decide +kernel
  obtain ⟨track, held, circling⟩ := Option.map_eq_some_iff.mp phase
  exact ⟨track, held, circling, evidence_of_circling held (Or.inr circling)⟩

end Detector
end Thermals.Detection
