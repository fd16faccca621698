import Thermals.Proofs.Detection.Publication

namespace Thermals.Detection

open Time Traffic

namespace Track

def heard (config : Config) (now : Instant) (report : Option Report) (t : Track) : Track :=
  match report with
  | some report => t.observe config now report
  | none => t

def swept (config : Config) (now : Instant) (t : Track) : Track :=
  if t.isExpired now config.maxRecentlyStoppedAge then fresh t.id config.positionHistorySize else t

def mayCircle (t : Track) : Bool := t.phase = .potentiallyCircling || t.phase = .circling

structure Fits (historySize : Nat) (id : FlarmId) (t : Track) : Prop where
  id : t.id = id
  capacity : t.history.capacity = max historySize 1

variable {config : Config} {id : FlarmId} {now : Instant} {t : Track}

theorem mayCircle_iff : t.mayCircle = true ↔ t.phase = .potentiallyCircling ∨ t.phase = .circling := by
  simp [mayCircle]

theorem active_of_mayCircle (circling : t.mayCircle = true) : t.phase ≠ .idle := by
  rcases mayCircle_iff.mp circling with phase | phase <;> rw [phase] <;> decide

theorem Fits.heard {historySize : Nat} (fits : t.Fits historySize id) (report : Option Report) :
    (t.heard config now report).Fits historySize id := by
  cases report with
  | none => exact fits
  | some report => exact ⟨id_observe.trans fits.id, capacity_observe.trans fits.capacity⟩

theorem swept_of_kept (kept : t.isExpired now config.maxRecentlyStoppedAge = false) :
    t.swept config now = t := by
  rw [swept, kept, if_neg Bool.false_ne_true]

theorem swept_of_expired (expired : t.isExpired now config.maxRecentlyStoppedAge = true) :
    t.swept config now = fresh t.id config.positionHistorySize := by
  rw [swept, if_pos expired]

theorem prior_some (own : t.id = id) : prior config id (some t) = t := by
  rw [← own]
  rfl

theorem prior_filter_kept (config : Config) (id : FlarmId) (t : Track) (now : Instant) :
    prior config id ((some t).filter fun t => !t.isExpired now config.maxRecentlyStoppedAge) =
      (prior config id (some t)).swept config now := by
  have same : (prior config id (some t)).isExpired now config.maxRecentlyStoppedAge =
      t.isExpired now config.maxRecentlyStoppedAge := rfl
  cases expired : t.isExpired now config.maxRecentlyStoppedAge with
  | true =>
    rw [swept_of_expired (same.trans expired), Option.filter_some, expired]
    rfl
  | false =>
    rw [swept_of_kept (same.trans expired), Option.filter_some, expired]
    rfl

theorem prior_next? (config : Config) (id : FlarmId) (held : Option Track) (tick : Tick) :
    prior config id (next? config id held tick) =
      ((prior config id held).heard config tick.time (tick.roster.find? id)).swept config
        tick.time := by
  cases reported : tick.roster.find? id with
  | some report =>
    have own : ((prior config id held).observe config tick.time report).id = id := id_observe
    rw [next?_reported reported, prior_filter_kept, prior_some own]
    rfl
  | none =>
    rw [next?_absent reported]
    cases held with
    | none =>
      have expired : (prior config id none).isExpired tick.time config.maxRecentlyStoppedAge = true :=
        rfl
      exact (swept_of_expired expired).symm
    | some t => exact prior_filter_kept config id t tick.time

end Track

namespace Detector

def known (config : Config) (ticks : List Tick) (id : FlarmId) : Track :=
  .prior config id (tracked config ticks id)

variable {config : Config} {ticks : List Tick} {id : FlarmId}

theorem known_append_singleton (config : Config) (ticks : List Tick) (tick : Tick) (id : FlarmId) :
    known config (ticks ++ [tick]) id =
      ((known config ticks id).heard config tick.time (tick.roster.find? id)).swept config
        tick.time := by
  rw [known, tracked_append_singleton, Track.prior_next?]
  rfl

theorem fits_known (config : Config) (ticks : List Tick) (id : FlarmId) :
    (known config ticks id).Fits config.positionHistorySize id := ⟨rfl, capacity_prior config ticks id⟩

theorem kept_known {tick : Tick} (active : (known config (ticks ++ [tick]) id).phase ≠ .idle) :
    (known config (ticks ++ [tick]) id).isExpired tick.time config.maxRecentlyStoppedAge = false :=
  kept_of_tracked (tracked_of_prior active)

theorem filter_tracked {keep : Track → Bool} (active : ∀ t, keep t = true → t.phase ≠ .idle) :
    (tracked config ticks id).filter keep = (some (known config ticks id)).filter keep := by
  cases held : tracked config ticks id with
  | some track => rw [known, prior_of_tracked held]
  | none =>
    have fresh : (known config ticks id).phase = .idle := by
      rw [known, held]
      rfl
    have refused : ¬ keep (known config ticks id) = true := fun kept => active _ kept fresh
    rw [Option.filter_some, if_neg refused]
    rfl

theorem published_eq_filter_known (config : Config) (ticks : List Tick) (id : FlarmId) :
    published config ticks id = (some (known config ticks id)).filter
      fun t => t.phase = .circling || t.phase = .recentlyStopped := by
  rw [published_eq_filter_tracked]
  apply filter_tracked
  intro t confirmed idle
  simp [idle] at confirmed

theorem active_of_tracked {t : Track} (held : tracked config ticks id = some t) : t.phase ≠ .idle := by
  cases ticks using List.reverseRecOn with
  | nil => cases held
  | append_singleton ticks tick => exact ((t.isExpired_eq_false_iff _ _).mp (kept_of_tracked held)).1

theorem tracked_eq_filter_known (config : Config) (ticks : List Tick) (id : FlarmId) :
    tracked config ticks id = (some (known config ticks id)).filter fun t => t.phase ≠ .idle := by
  rw [← filter_tracked fun t active => of_decide_eq_true active]
  cases held : tracked config ticks id with
  | none => rfl
  | some t => rw [Option.filter_some, if_pos (decide_eq_true (active_of_tracked held))]

/-- Two runs side by side. What relates fresh tracks and outlives each pair of ticks relates what the
two runs know of a target. -/
theorem known_related {first second : Config} {id : FlarmId} {alike : Tick → Tick → Prop}
    (related : Track → Track → Prop)
    (start : related (.fresh id first.positionHistorySize) (.fresh id second.positionHistorySize))
    (step : ∀ a b tick counterpart, alike tick counterpart → related a b →
      related ((a.heard first tick.time (tick.roster.find? id)).swept first tick.time)
        ((b.heard second counterpart.time (counterpart.roster.find? id)).swept second counterpart.time))
    {ticks counterparts : List Tick} (matched : List.Forall₂ alike ticks counterparts) :
    related (known first ticks id) (known second counterparts id) := by
  apply tracked_related
    (fun held other => related (.prior first id held) (.prior second id other)) start ?_ matched
  intro held other tick counterpart same before
  rw [Track.prior_next?, Track.prior_next?]
  exact step _ _ tick counterpart same before

theorem tracked_rel_of_known {first second : Config} {ticks counterparts : List Tick}
    {related : Track → Track → Prop}
    (phase : (known first ticks id).phase = (known second counterparts id).phase)
    (active : (known first ticks id).phase ≠ .idle →
      related (known first ticks id) (known second counterparts id)) :
    Option.Rel related (tracked first ticks id) (tracked second counterparts id) ∧
      Option.Rel related (published first ticks id) (published second counterparts id) := by
  have picked (keep : Phase → Bool) (idle : keep .idle = false) :
      Option.Rel related ((some (known first ticks id)).filter fun t => keep t.phase)
        ((some (known second counterparts id)).filter fun t => keep t.phase) := by
    rw [Option.filter_some, Option.filter_some, ← phase]
    cases kept : keep (known first ticks id).phase with
    | false => exact .none
    | true =>
      apply Option.Rel.some
      apply active
      intro same
      rw [same, idle] at kept
      cases kept
  rw [tracked_eq_filter_known, tracked_eq_filter_known, published_eq_filter_known,
    published_eq_filter_known]
  exact ⟨picked (fun p => p ≠ .idle) rfl,
    picked (fun p => p = .circling || p = .recentlyStopped) rfl⟩

end Detector
end Thermals.Detection
