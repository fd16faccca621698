import Thermals.Proofs.Detection.Evidence
import Thermals.Proofs.Detection.Known

namespace Thermals

open Time Traffic

def Config.withProbation (config : Config) (duration : Span) : Config :=
  { config with minCirclingDuration := duration }

namespace Detection

/-- A track with the shorter probation that is at the same point as one with the longer one, or has
confirmed already what is still on probation there. -/
structure Ahead (a b : Track) : Prop where
  phase : a.phase = b.phase ∨ a.phase = .circling ∧ b.phase = .potentiallyCircling
  started : a.started = b.started
  updated : a.updated = b.updated
  history : a.history = b.history
  center : a.phase = b.phase → a.center = b.center
  samples : b.climb.samples ≤ a.climb.samples

/-- What is known of a target with the shorter and with the longer probation. Where it failed the
longer one, a thermal that the shorter one confirmed can be left. -/
inductive Leads (a b : Track) : Prop
  | ahead (ahead : Ahead a b)
  | apart (dormant : a.phase = .idle ∨ a.phase = .recentlyStopped) (idle : b.phase = .idle)

variable {config : Config} {shorter longer : Span} {now : Instant} {a b : Track} {report : Report}

namespace Ahead

theorem dormant (ahead : Ahead a b) (dormant : b.phase = .idle ∨ b.phase = .recentlyStopped) :
    a.phase = .idle ∨ a.phase = .recentlyStopped := by
  rcases ahead.phase with same | ⟨-, waiting⟩
  · rwa [same]
  · rw [waiting] at dormant
    rcases dormant with phase | phase <;> cases phase

theorem circling (ahead : Ahead a b) (circling : b.phase = .potentiallyCircling ∨ b.phase = .circling) :
    a.phase = .potentiallyCircling ∨ a.phase = .circling := by
  rcases ahead.phase with same | ⟨confirmed, -⟩
  · rwa [same]
  · exact Or.inr confirmed

theorem isExpired_eq (ahead : Ahead a b) (now : Instant) (maxAge : Span) :
    a.isExpired now maxAge = b.isExpired now maxAge := by
  unfold Track.isExpired
  rcases ahead.phase with same | ⟨confirmed, waiting⟩
  · rw [same, Track.age, Track.age, ahead.updated]
  · rw [confirmed, waiting, Track.age, Track.age, ahead.updated]

theorem begins (turning : turns config report = true)
    (dormant : a.phase = .idle ∨ a.phase = .recentlyStopped)
    (other_dormant : b.phase = .idle ∨ b.phase = .recentlyStopped)
    (capacity : a.history.capacity = b.history.capacity) :
    Ahead (a.observe (config.withProbation shorter) now report)
      (b.observe (config.withProbation longer) now report) := by
  have turning_shorter : turns (config.withProbation shorter) report = true := turning
  have turning_longer : turns (config.withProbation longer) report = true := turning
  rw [Track.observe_begins dormant turning_shorter, Track.observe_begins other_dormant turning_longer,
    Window.clear_congr capacity]
  exact ⟨Or.inl rfl, rfl, rfl, rfl, fun _ => rfl, Nat.le_refl _⟩

theorem rests (ahead : Ahead a b) (straight : turns config report = false)
    (dormant : a.phase = .idle ∨ a.phase = .recentlyStopped)
    (other_dormant : b.phase = .idle ∨ b.phase = .recentlyStopped) :
    Ahead (a.observe (config.withProbation shorter) now report)
      (b.observe (config.withProbation longer) now report) := by
  have straight_shorter : turns (config.withProbation shorter) report = false := straight
  have straight_longer : turns (config.withProbation longer) report = false := straight
  rw [Track.observe_dormant dormant straight_shorter,
    Track.observe_dormant other_dormant straight_longer, ahead.history]
  exact ⟨ahead.phase, ahead.started, ahead.updated, rfl, ahead.center, ahead.samples⟩

theorem confirms_sooner (le : shorter ≤ longer) (ahead : Ahead a b)
    (confirmed : b.phase = .circling ∨ longer ≤ now.since b.started) :
    a.phase = .circling ∨ shorter ≤ now.since a.started := by
  rw [ahead.started]
  rcases confirmed with phase | long
  · rcases ahead.phase with same | ⟨phase, -⟩
    · exact Or.inl (same.trans phase)
    · exact Or.inl phase
  · exact Or.inr (Span.le_trans le long)

theorem circles (le : shorter ≤ longer) (ahead : Ahead a b)
    (circling : a.phase = .potentiallyCircling ∨ a.phase = .circling)
    (other_circling : b.phase = .potentiallyCircling ∨ b.phase = .circling)
    (hit : Detection.circles config b.history report = true) :
    Ahead (a.observe (config.withProbation shorter) now report)
      (b.observe (config.withProbation longer) now report) := by
  obtain ⟨early, counts⟩ : ∃ early : Bool,
      early = (a.phase = .circling || shorter ≤ now.since a.started) := ⟨_, rfl⟩
  obtain ⟨late, other_counts⟩ : ∃ late : Bool,
      late = (b.phase = .circling || longer ≤ now.since b.started) := ⟨_, rfl⟩
  have sooner (confirmed : late = true) : early = true := by
    rw [other_counts, Bool.or_eq_true, decide_eq_true_eq, decide_eq_true_eq] at confirmed
    rw [counts, Bool.or_eq_true, decide_eq_true_eq, decide_eq_true_eq]
    exact ahead.confirms_sooner le confirmed
  have hit_longer : Detection.circles (config.withProbation longer) b.history report = true := hit
  have hit_shorter : Detection.circles (config.withProbation shorter) a.history report = true := by
    rw [ahead.history]
    exact hit
  rw [Track.observe_circles circling hit_shorter counts,
    Track.observe_circles other_circling hit_longer other_counts, ahead.history]
  have more := Climb.samples_addKnown a.climb report.climbRate
  have other_more := Climb.samples_addKnown b.climb report.climbRate
  have samples := ahead.samples
  cases late with
  | true =>
    rw [sooner rfl]
    refine ⟨Or.inl rfl, ahead.started, rfl, rfl, fun _ => rfl, ?_⟩
    simp only [if_true]
    omega
  | false =>
    cases early with
    | true =>
      refine ⟨Or.inr ⟨rfl, rfl⟩, ahead.started, rfl, rfl, ?_, ?_⟩
      · intro same
        cases same
      · simp only [if_true, Bool.false_eq_true, if_false]
        omega
    | false =>
      have same : a.phase = b.phase := by
        rcases ahead.phase with same | ⟨phase, -⟩
        · exact same
        · simp [phase] at counts
      exact ⟨Or.inl rfl, ahead.started, rfl, rfl, fun _ => ahead.center same, samples⟩

theorem misses (ahead : Ahead a b) (circling : a.phase = .potentiallyCircling ∨ a.phase = .circling)
    (other_circling : b.phase = .potentiallyCircling ∨ b.phase = .circling)
    (miss : Detection.circles config b.history report = false) :
    Leads (a.observe (config.withProbation shorter) now report)
      (b.observe (config.withProbation longer) now report) := by
  have miss_longer : Detection.circles (config.withProbation longer) b.history report = false := miss
  have miss_shorter : Detection.circles (config.withProbation shorter) a.history report = false := by
    rw [ahead.history]
    exact miss
  -- Still on probation, the second run falls back to idle whatever the first one has confirmed.
  rcases other_circling with other_phase | other_phase
  · rw [Track.observe_fails other_phase miss_longer]
    rcases circling with phase | phase
    · rw [Track.observe_fails phase miss_shorter]
      exact .apart (Or.inl rfl) rfl
    · rw [Track.observe_stops phase miss_shorter]
      exact .apart (Or.inr rfl) rfl
  · have same : a.phase = b.phase := by
      rcases ahead.phase with same | ⟨-, waiting⟩
      · exact same
      · cases other_phase.symm.trans waiting
    rw [Track.observe_stops (same.trans other_phase) miss_shorter,
      Track.observe_stops other_phase miss_longer, ahead.history]
    exact .ahead ⟨Or.inl rfl, ahead.started, rfl, rfl, fun _ => ahead.center same, ahead.samples⟩

end Ahead

namespace Leads

theorem observe (le : shorter ≤ longer) (leads : Leads a b)
    (capacity : a.history.capacity = b.history.capacity) :
    Leads (a.observe (config.withProbation shorter) now report)
      (b.observe (config.withProbation longer) now report) := by
  cases leads with
  | apart dormant idle =>
    cases turning : turns config report with
    | true => exact .ahead (.begins turning dormant (Or.inl idle) capacity)
    | false =>
      have straight : turns (config.withProbation shorter) report = false := turning
      have other_straight : turns (config.withProbation longer) report = false := turning
      rw [Track.observe_dormant dormant straight, Track.observe_dormant (Or.inl idle) other_straight]
      exact .apart dormant idle
  | ahead ahead =>
    rcases b.dormant_or_circling with other_dormant | other_circling
    · have dormant := ahead.dormant other_dormant
      cases turning : turns config report with
      | true => exact .ahead (.begins turning dormant other_dormant capacity)
      | false => exact .ahead (ahead.rests turning dormant other_dormant)
    · have circling := ahead.circling other_circling
      cases hit : circles config b.history report with
      | true => exact .ahead (ahead.circles le circling other_circling hit)
      | false => exact ahead.misses circling other_circling hit

theorem heard (le : shorter ≤ longer) (leads : Leads a b)
    (capacity : a.history.capacity = b.history.capacity) (report : Option Report) :
    Leads (a.heard (config.withProbation shorter) now report)
      (b.heard (config.withProbation longer) now report) := by
  cases report with
  | none => exact leads
  | some report => exact leads.observe le capacity

theorem swept (leads : Leads a b) : Leads (a.swept config now) (b.swept config now) := by
  cases leads with
  | apart dormant idle =>
    -- What is idle goes at once, while the thermal of the first run can stay for as long as it is shown.
    have other_expired : b.isExpired now config.maxRecentlyStoppedAge = true := by
      simp [Track.isExpired, idle]
    rw [Track.swept_of_expired other_expired]
    cases expired : a.isExpired now config.maxRecentlyStoppedAge with
    | true =>
      rw [Track.swept_of_expired expired]
      exact .apart (Or.inl rfl) rfl
    | false =>
      rw [Track.swept_of_kept expired]
      exact .apart dormant rfl
  | ahead ahead =>
    cases expired : b.isExpired now config.maxRecentlyStoppedAge with
    | true =>
      rw [Track.swept_of_expired expired, Track.swept_of_expired ((ahead.isExpired_eq _ _).trans expired)]
      exact .ahead ⟨Or.inl rfl, rfl, rfl, rfl, fun _ => rfl, Nat.le_refl _⟩
    | false =>
      rw [Track.swept_of_kept expired, Track.swept_of_kept ((ahead.isExpired_eq _ _).trans expired)]
      exact .ahead ahead

end Leads

namespace Detector

theorem leads_of_le (le : shorter ≤ longer) (config : Config) (ticks : List Tick) (id : FlarmId) :
    Leads (known (config.withProbation shorter) ticks id) (known (config.withProbation longer) ticks id) := by
  induction ticks using List.reverseRecOn with
  | nil => exact .apart (Or.inl rfl) rfl
  | append_singleton ticks tick ih =>
    have capacity := (fits_known (config.withProbation shorter) ticks id).capacity.trans
      (fits_known (config.withProbation longer) ticks id).capacity.symm
    rw [known_append_singleton, known_append_singleton]
    apply Leads.swept
    exact ih.heard le capacity (tick.roster.find? id)

/-- A longer probation only takes thermals away. Each one that it leaves is shown with the shorter one
as well, in the same place and since the same time; each target that is on probation has come as far
with the shorter one. -/
theorem longer_probation_shows_less (le : shorter ≤ longer) (config : Config) (ticks : List Tick)
    (id : FlarmId) :
    (∀ shown, published (config.withProbation longer) ticks id = some shown →
      ∃ other, published (config.withProbation shorter) ticks id = some other ∧
        other.phase = shown.phase ∧ other.center = shown.center ∧ other.updated = shown.updated ∧
        other.started = shown.started ∧ shown.climb.samples ≤ other.climb.samples) ∧
    ∀ held, tracked (config.withProbation longer) ticks id = some held →
      held.phase = .potentiallyCircling →
      ∃ other, tracked (config.withProbation shorter) ticks id = some other ∧
        (other.phase = .potentiallyCircling ∨ other.phase = .circling) ∧
        other.started = held.started ∧ other.updated = held.updated ∧
        other.history = held.history := by
  have leads := leads_of_le le config ticks id
  constructor
  · intro shown found
    rw [published_eq_filter_known, Option.filter_eq_some_iff] at found
    obtain ⟨same, confirmed⟩ := found
    obtain rfl := Option.some.inj same
    cases leads with
    | apart _ idle => simp [idle] at confirmed
    | ahead ahead =>
      have phase : (known (config.withProbation shorter) ticks id).phase =
          (known (config.withProbation longer) ticks id).phase := by
        rcases ahead.phase with same | ⟨-, waiting⟩
        · exact same
        · simp [waiting] at confirmed
      refine ⟨_, ?_, phase, ahead.center phase, ahead.updated, ahead.started, ahead.samples⟩
      rw [published_eq_filter_known, Option.filter_eq_some_iff, phase]
      exact ⟨rfl, confirmed⟩
  · intro held found waiting
    obtain rfl : known (config.withProbation longer) ticks id = held := prior_of_tracked found
    cases leads with
    | apart _ idle => cases idle.symm.trans waiting
    | ahead ahead =>
      have circling := ahead.circling (Or.inl waiting)
      have active : (known (config.withProbation shorter) ticks id).phase ≠ .idle := by
        rcases circling with phase | phase <;> rw [phase] <;> decide
      exact ⟨_, tracked_of_prior active, circling, ahead.started, ahead.updated, ahead.history⟩

theorem second_thermal_shown_sooner :
    let ticks := Flight.opening ++ Flight.entry :: Flight.turning
    let first := Flight.settings.withProbation (.ofSeconds 1)
    let second := Flight.settings.withProbation (.ofSeconds 3)
    Span.ofSeconds 1 ≤ Span.ofSeconds 3 ∧
      ∃ shown, published second ticks Flight.target = some shown ∧
        ∃ other, published first ticks Flight.target = some other ∧ other.phase = shown.phase ∧
          other.center = shown.center ∧ other.updated = shown.updated ∧
          other.started = shown.started ∧ shown.climb.samples ≤ other.climb.samples := by
  intro ticks first second
  have le : Span.ofSeconds 1 ≤ Span.ofSeconds 3 := by decide
  have confirmed : (published second ticks Flight.target).isSome = true := by decide +kernel
  obtain ⟨shown, found⟩ := Option.isSome_iff_exists.mp confirmed
  obtain ⟨shows, -⟩ := longer_probation_shows_less le Flight.settings ticks Flight.target
  exact ⟨le, shown, found, shows shown found⟩

end Detector
end Detection
end Thermals
