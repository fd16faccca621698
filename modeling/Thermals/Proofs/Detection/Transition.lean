import Thermals.Detection.Detector
import Thermals.Proofs.Window

namespace Thermals.Detection

open Time Geo Traffic

def turns (config : Config) (report : Report) : Bool :=
  report.location.isSome && report.turnRate.any (meetsTurn config)

def noted (history : Window Point) (report : Report) : Window Point :=
  match report.location, report.turnRate with
  | some location, some _ => history.push location
  | _, _ => history

def circles (config : Config) (history : Window Point) (report : Report) : Bool :=
  turns config report && withinArea (noted history report) config.maxDiameter

theorem turns_iff {config : Config} {report : Report} :
    turns config report = true ↔ ∃ location turnRate, report.location = some location ∧
      report.turnRate = some turnRate ∧ meetsTurn config turnRate = true := by
  unfold turns
  cases report.location <;> cases report.turnRate <;> simp

theorem noted_of_turns {config : Config} {report : Report} (turning : turns config report = true)
    (history : Window Point) :
    ∃ location, report.location = some location ∧ noted history report = history.push location := by
  obtain ⟨location, turnRate, located, rated, _⟩ := turns_iff.mp turning
  exact ⟨location, located, by simp only [noted, located, rated]⟩

theorem capacity_noted (history : Window Point) (report : Report) :
    (noted history report).capacity = history.capacity := by
  unfold noted
  split <;> rfl

namespace Track

variable {config : Config} {now : Instant} {report : Report} {t : Track}

theorem dormant_or_circling (t : Track) : (t.phase = .idle ∨ t.phase = .recentlyStopped) ∨
    (t.phase = .potentiallyCircling ∨ t.phase = .circling) := by
  cases t.phase <;> simp

theorem observe_cases (config : Config) (now : Instant) (report : Report) (t : Track) :
    (∃ location turnRate, turns config report = meetsTurn config turnRate ∧
      noted t.history report = t.history.push location ∧
      t.observe config now report = { t with history := t.history.push location }.transition
        config now location turnRate report.climbRate) ∨
    (noted t.history report = t.history ∧ t.observe config now report = t.loseSignal now) := by
  cases located : report.location with
  | none => exact Or.inr ⟨by simp [noted, located], by simp [observe, located]⟩
  | some location =>
    cases rated : report.turnRate with
    | none => exact Or.inr ⟨by simp [noted, rated], by simp [observe, located, rated]⟩
    | some turnRate =>
      refine Or.inl ⟨location, turnRate, ?_, ?_, ?_⟩
      · simp [turns, located, rated]
      · simp [noted, located, rated]
      · simp [observe, located, rated]

theorem observe_turning (now : Instant) (t : Track) (turning : turns config report = true) :
    ∃ location turnRate, report.location = some location ∧ meetsTurn config turnRate = true ∧
      (∀ history, noted history report = history.push location) ∧
      t.observe config now report = { t with history := t.history.push location }.transition
        config now location turnRate report.climbRate := by
  obtain ⟨location, turnRate, located, rated, meets⟩ := turns_iff.mp turning
  refine ⟨location, turnRate, located, meets, ?_, ?_⟩
  · intro history
    simp only [noted, located, rated]
  · simp only [observe, located, rated]

theorem observe_begins (dormant : t.phase = .idle ∨ t.phase = .recentlyStopped)
    (turning : turns config report = true) :
    t.observe config now report =
      { t with
        phase := .potentiallyCircling, center := none, climb := .none, updated := now,
        started := now, history := noted t.history.clear report } := by
  obtain ⟨location, turnRate, -, meets, pushed, step⟩ := observe_turning now t turning
  rw [step, pushed]
  rcases dormant with phase | phase <;>
    simp only [transition, phase, meets, if_true, probation, Window.clear_push]

theorem observe_restarts {other : Track} (dormant : t.phase = .idle ∨ t.phase = .recentlyStopped)
    (other_dormant : other.phase = .idle ∨ other.phase = .recentlyStopped)
    (turning : turns config report = true) (id : t.id = other.id)
    (capacity : t.history.capacity = other.history.capacity) :
    t.observe config now report = other.observe config now report := by
  rw [observe_begins dormant turning, observe_begins other_dormant turning, id,
    Window.clear_congr capacity]

theorem observe_dormant (dormant : t.phase = .idle ∨ t.phase = .recentlyStopped)
    (straight : turns config report = false) :
    t.observe config now report = { t with history := noted t.history report } := by
  rcases observe_cases config now report t with ⟨_, _, meets, pushed, step⟩ | ⟨same, step⟩
  · rw [step, pushed]
    rcases dormant with phase | phase <;> simp [transition, phase, ← meets, straight]
  · have unchanged : t.loseSignal now = t := by
      rcases dormant with phase | phase <;> simp only [loseSignal, phase]
    rw [step, same, unchanged]

theorem observe_waits (phase : t.phase = .potentiallyCircling)
    (hit : circles config t.history report = true)
    (short : ¬ config.minCirclingDuration ≤ now.since t.started) :
    t.observe config now report = { t with updated := now, history := noted t.history report } := by
  obtain ⟨turning, near⟩ := Bool.and_eq_true_iff.mp hit
  obtain ⟨_, _, -, meets, pushed, step⟩ := observe_turning now t turning
  rw [pushed] at near
  rw [step, pushed]
  simp [transition, phase, meets, near, short]

theorem observe_confirms (phase : t.phase = .potentiallyCircling)
    (hit : circles config t.history report = true)
    (long : config.minCirclingDuration ≤ now.since t.started) :
    t.observe config now report =
      { t with
        phase := .circling, center := report.location, climb := t.climb.addKnown report.climbRate,
        updated := now, history := noted t.history report } := by
  obtain ⟨turning, near⟩ := Bool.and_eq_true_iff.mp hit
  obtain ⟨_, _, located, meets, pushed, step⟩ := observe_turning now t turning
  rw [pushed] at near
  rw [step, pushed, located]
  simp [transition, phase, meets, near, long, accept]

theorem observe_fails (phase : t.phase = .potentiallyCircling)
    (miss : circles config t.history report = false) :
    t.observe config now report = { t with phase := .idle }.reset := by
  rcases observe_cases config now report t with ⟨_, _, meets, pushed, step⟩ | ⟨-, step⟩
  · rw [circles, pushed, meets] at miss
    rw [step]
    simp [transition, phase, miss, reset, Window.clear_push]
  · rw [step]
    simp only [loseSignal, phase]

theorem observe_continues (phase : t.phase = .circling)
    (hit : circles config t.history report = true) :
    t.observe config now report =
      { t with
        center := report.location, climb := t.climb.addKnown report.climbRate, updated := now,
        history := noted t.history report } := by
  obtain ⟨turning, near⟩ := Bool.and_eq_true_iff.mp hit
  obtain ⟨_, _, located, meets, pushed, step⟩ := observe_turning now t turning
  rw [pushed] at near
  rw [step, pushed, located]
  simp [transition, phase, meets, near, accept]

theorem observe_circles (circling : t.phase = .potentiallyCircling ∨ t.phase = .circling)
    (hit : circles config t.history report = true) {late : Bool}
    (counts : late = (t.phase = .circling || config.minCirclingDuration ≤ now.since t.started)) :
    t.observe config now report =
      { t with
        phase := if late then .circling else .potentiallyCircling
        center := if late then report.location else t.center
        climb := if late then t.climb.addKnown report.climbRate else t.climb
        updated := now
        history := noted t.history report } := by
  rcases circling with phase | phase
  · by_cases long : config.minCirclingDuration ≤ now.since t.started
    · rw [observe_confirms phase hit long]
      simp [counts, long]
    · rw [observe_waits phase hit long]
      simp [counts, phase, long]
  · rw [observe_continues phase hit]
    simp [counts, phase]

theorem observe_stops (phase : t.phase = .circling)
    (miss : circles config t.history report = false) :
    t.observe config now report =
      { t with phase := .recentlyStopped, updated := now, history := noted t.history report } := by
  rcases observe_cases config now report t with ⟨_, _, meets, pushed, step⟩ | ⟨same, step⟩
  · rw [circles, pushed, meets] at miss
    rw [step, pushed]
    simp [transition, phase, miss]
  · rw [step, same]
    simp only [loseSignal, phase]

/-- All that a report can make of a track, with the condition for each outcome. -/
inductive Reaction (config : Config) (now : Instant) (report : Report) (t : Track) : Track → Prop
  | begins (dormant : t.phase = .idle ∨ t.phase = .recentlyStopped)
      (turning : turns config report = true) :
      Reaction config now report t
        { t with
          phase := .potentiallyCircling, center := none, climb := .none, updated := now,
          started := now, history := noted t.history.clear report }
  | rests (dormant : t.phase = .idle ∨ t.phase = .recentlyStopped)
      (straight : turns config report = false) :
      Reaction config now report t { t with history := noted t.history report }
  | waits (phase : t.phase = .potentiallyCircling) (hit : circles config t.history report = true)
      (short : ¬ config.minCirclingDuration ≤ now.since t.started) :
      Reaction config now report t { t with updated := now, history := noted t.history report }
  | confirms (phase : t.phase = .potentiallyCircling) (hit : circles config t.history report = true)
      (long : config.minCirclingDuration ≤ now.since t.started) :
      Reaction config now report t
        { t with
          phase := .circling, center := report.location, climb := t.climb.addKnown report.climbRate,
          updated := now, history := noted t.history report }
  | fails (phase : t.phase = .potentiallyCircling) (miss : circles config t.history report = false) :
      Reaction config now report t { t with phase := .idle }.reset
  | continues (phase : t.phase = .circling) (hit : circles config t.history report = true) :
      Reaction config now report t
        { t with
          center := report.location, climb := t.climb.addKnown report.climbRate, updated := now,
          history := noted t.history report }
  | stops (phase : t.phase = .circling) (miss : circles config t.history report = false) :
      Reaction config now report t
        { t with phase := .recentlyStopped, updated := now, history := noted t.history report }

theorem reaction {next : Track} (step : t.observe config now report = next) :
    Reaction config now report t next := by
  subst step
  have dormant (rest : t.phase = .idle ∨ t.phase = .recentlyStopped) :
      Reaction config now report t (t.observe config now report) := by
    cases turning : turns config report with
    | true => rw [observe_begins rest turning]; exact .begins rest turning
    | false => rw [observe_dormant rest turning]; exact .rests rest turning
  cases phase : t.phase with
  | idle => exact dormant (Or.inl phase)
  | recentlyStopped => exact dormant (Or.inr phase)
  | potentiallyCircling =>
    cases hit : circles config t.history report with
    | false => rw [observe_fails phase hit]; exact .fails phase hit
    | true =>
      by_cases long : config.minCirclingDuration ≤ now.since t.started
      · rw [observe_confirms phase hit long]; exact .confirms phase hit long
      · rw [observe_waits phase hit long]; exact .waits phase hit long
  | circling =>
    cases hit : circles config t.history report with
    | false => rw [observe_stops phase hit]; exact .stops phase hit
    | true => rw [observe_continues phase hit]; exact .continues phase hit

theorem circling_observe
    (circling : (t.observe config now report).phase = .potentiallyCircling ∨
      (t.observe config now report).phase = .circling) :
    ((t.phase = .idle ∨ t.phase = .recentlyStopped) ∧ turns config report = true) ∨
      ((t.phase = .potentiallyCircling ∨ t.phase = .circling) ∧
        circles config t.history report = true) := by
  generalize step : t.observe config now report = next at circling
  cases reaction step with
  | begins dormant turning => exact Or.inl ⟨dormant, turning⟩
  | rests dormant => rcases dormant with phase | phase <;> simp [phase] at circling
  | waits phase hit => exact Or.inr ⟨Or.inl phase, hit⟩
  | confirms phase hit => exact Or.inr ⟨Or.inl phase, hit⟩
  | fails => simp [reset] at circling
  | continues phase hit => exact Or.inr ⟨Or.inr phase, hit⟩
  | stops => simp at circling

theorem id_observe : (t.observe config now report).id = t.id := by
  generalize step : t.observe config now report = next
  cases reaction step <;> rfl

theorem capacity_observe :
    (t.observe config now report).history.capacity = t.history.capacity := by
  generalize step : t.observe config now report = next
  cases reaction step with
  | begins => exact capacity_noted _ _
  | rests => exact capacity_noted _ _
  | waits => exact capacity_noted _ _
  | confirms => exact capacity_noted _ _
  | fails => rfl
  | continues => exact capacity_noted _ _
  | stops => exact capacity_noted _ _

end Track
end Thermals.Detection
