import Thermals.Proofs.Detection.Transition

namespace Thermals.Detection

open Time Geo Traffic

structure Climb.Averages (c : Climb) : Prop where
  mean : 0 < c.samples → c.average = c.sum / Float.ofNat c.samples
  zero : c.samples = 0 → c.sum = 0.0 ∧ c.average = 0.0

namespace Climb

theorem averages_none : none.Averages where
  mean := fun sampled => absurd sampled (Nat.lt_irrefl 0)
  zero := fun _ => ⟨rfl, rfl⟩

theorem averages_add (c : Climb) (rate : Float) : (c.add rate).Averages where
  mean := fun _ => rfl
  zero := fun unsampled => absurd unsampled (Nat.succ_ne_zero _)

theorem Averages.addKnown {c : Climb} (averages : c.Averages) (rate : Option Float) :
    (c.addKnown rate).Averages := by
  cases rate with
  | none => exact averages
  | some rate => exact averages_add c rate

end Climb

/-- How the parts of a track go together. What is confirmed has a center, and nothing else has one; what
is not idle has been seen somewhere. -/
structure Track.Coherent (t : Track) : Prop where
  bounded : t.history.size ≤ t.history.capacity
  unconfirmed : t.phase = .idle ∨ t.phase = .potentiallyCircling → t.center = none ∧ t.climb = .none
  confirmed : t.phase = .circling ∨ t.phase = .recentlyStopped → t.center.isSome = true
  located : t.phase ≠ .idle → t.history.items ≠ []
  newest : t.phase = .circling → t.history.newest? = t.center
  climb : t.climb.Averages

theorem newest?_noted {config : Config} {report : Report} (turning : turns config report = true)
    (history : Window Point) :
    (noted history report).newest? = report.location ∧ report.location.isSome = true := by
  obtain ⟨location, located, pushed⟩ := noted_of_turns turning history
  rw [pushed, located]
  exact ⟨List.getLast?_concat, rfl⟩

theorem items_noted_ne_nil {history : Window Point} (seen : history.items ≠ []) (report : Report) :
    (noted history report).items ≠ [] := by
  unfold noted
  split
  · simp
  · exact seen

namespace Track

variable {config : Config} {now : Instant} {report : Report} {t : Track}

theorem coherent_fresh (id : FlarmId) (historySize : Nat) : (fresh id historySize).Coherent where
  bounded := Nat.zero_le _
  unconfirmed := fun _ => ⟨rfl, rfl⟩
  confirmed := by
    intro confirmed
    rcases confirmed with phase | phase <;> cases phase
  located := fun active => absurd rfl active
  newest := by
    intro circling
    cases circling
  climb := Climb.averages_none

theorem Coherent.withId (coherent : t.Coherent) (id : FlarmId) : { t with id := id }.Coherent :=
  ⟨coherent.bounded, coherent.unconfirmed, coherent.confirmed, coherent.located, coherent.newest,
    coherent.climb⟩

theorem Coherent.observe (coherent : t.Coherent) : (t.observe config now report).Coherent := by
  have bounded {history : Window Point} : history.size ≤ history.capacity := history.length_le
  have located (active : t.phase ≠ .idle) : (noted t.history report).items ≠ [] :=
    items_noted_ne_nil (coherent.located active) report
  generalize step : Track.observe config now report t = next
  cases reaction step with
  | begins _ turning =>
    obtain ⟨location, -, pushed⟩ := noted_of_turns turning t.history.clear
    refine ⟨bounded, fun _ => ⟨rfl, rfl⟩, ?_, ?_, ?_, Climb.averages_none⟩
    · simp
    · simp [pushed]
    · simp
  | rests dormant =>
    refine ⟨bounded, coherent.unconfirmed, coherent.confirmed, located, ?_, coherent.climb⟩
    intro circling
    rcases dormant with phase | phase <;> cases phase.symm.trans circling
  | waits phase =>
    refine ⟨bounded, coherent.unconfirmed, coherent.confirmed, located, ?_, coherent.climb⟩
    intro circling
    cases phase.symm.trans circling
  | confirms phase hit =>
    obtain ⟨newest, center⟩ := newest?_noted (Bool.and_eq_true_iff.mp hit).1 t.history
    refine ⟨bounded, ?_, fun _ => center, ?_, fun _ => newest, coherent.climb.addKnown _⟩
    · simp
    · intro _
      exact located (by simp [phase])
  | fails =>
    refine ⟨bounded, fun _ => ⟨rfl, rfl⟩, ?_, ?_, ?_, Climb.averages_none⟩ <;> simp [reset]
  | continues phase hit =>
    obtain ⟨newest, center⟩ := newest?_noted (Bool.and_eq_true_iff.mp hit).1 t.history
    refine ⟨bounded, ?_, fun _ => center, located, fun _ => newest, coherent.climb.addKnown _⟩
    simp [phase]
  | stops phase =>
    refine ⟨bounded, ?_, fun _ => coherent.confirmed (Or.inl phase), ?_, ?_, coherent.climb⟩
    · simp
    · intro _
      exact located (by simp [phase])
    · simp

end Track

end Thermals.Detection
