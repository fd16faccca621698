import Thermals.Proofs.Detection.Eviction
import Thermals.Proofs.Detection.Isolation
import Thermals.Proofs.Detection.Noninterference

namespace Thermals.Detection

open Time Traffic

namespace Track

variable {config : Config} {id : FlarmId} {held : Option Track} {now : Instant}

theorem isExpired_observe_dormant {t : Track} {report : Report} (rests : t.Dormant)
    (straight : turns config report = false) (maxAge : Span) :
    (t.observe config now report).isExpired now maxAge = t.isExpired now maxAge := by
  rw [observe_dormant rests straight]
  rfl

theorem dormant_of_expired {t : Track} (expired : t.isExpired now config.maxRecentlyStoppedAge = true)
    (young : t.mayCircle = true → t.age now ≤ config.maxEntryAge) : t.Dormant := by
  rcases t.dormant_or_mayCircle with rests | circling
  · exact rests
  · have kept : t.isExpired now config.maxRecentlyStoppedAge = false := by
      rw [isExpired_eq_false_iff]
      refine ⟨active_of_mayCircle circling, ?_, fun _ => young circling⟩
      intro stopped
      simp [mayCircle, stopped] at circling
    rw [kept] at expired
    cases expired

theorem filter_observe_of_expired {t : Track} (fits : t.Fits config.positionHistorySize id)
    (rests : t.Dormant) (expired : t.isExpired now config.maxRecentlyStoppedAge = true)
    (report : Report) :
    ((some ((prior config id none).observe config now report)).filter
        fun track => !track.isExpired now config.maxRecentlyStoppedAge) =
      (some ((prior config id (some t)).observe config now report)).filter
        fun track => !track.isExpired now config.maxRecentlyStoppedAge := by
  have fresh_rests : (prior config id none).Dormant := Or.inl rfl
  have fresh_expired : (prior config id none).isExpired now config.maxRecentlyStoppedAge = true := rfl
  rw [prior_some fits.id]
  cases turning : turns config report with
  | true =>
    have same : (prior config id none).observe config now report = t.observe config now report :=
      observe_restarts fresh_rests rests turning fits.id.symm fits.capacity.symm
    rw [same]
  | false =>
    rw [Option.filter_some, Option.filter_some, isExpired_observe_dormant fresh_rests turning,
      isExpired_observe_dormant rests turning, fresh_expired, expired]
    rfl

theorem next?_filter {tick : Tick}
    (fits : ∀ t, held = some t → t.Fits config.positionHistorySize id)
    (young : ∀ report, tick.roster.find? id = some report → ∀ t, held = some t →
      t.mayCircle = true → t.age tick.time ≤ config.maxEntryAge) :
    next? config id (held.filter fun t => !t.isExpired tick.time config.maxRecentlyStoppedAge) tick =
      next? config id held tick := by
  -- Without a report both cleanups drop the same. With one they differ in what was expired, which rests.
  cases reported : tick.roster.find? id with
  | none =>
    rw [next?_absent reported, next?_absent reported, Option.filter_filter]
    simp only [Bool.and_self]
  | some report =>
    rw [next?_reported reported, next?_reported reported]
    cases held with
    | none => rfl
    | some t =>
      have swept : (some t).filter (fun t => !t.isExpired tick.time config.maxRecentlyStoppedAge) =
          if t.isExpired tick.time config.maxRecentlyStoppedAge then none else some t := by
        cases expired : t.isExpired tick.time config.maxRecentlyStoppedAge <;> simp [expired]
      rw [swept]
      split
      · rename_i expired
        have rests := dormant_of_expired expired (young report reported t rfl)
        exact filter_observe_of_expired (fits t rfl) rests expired report
      · rfl

theorem next?_joins {both first second : Roster} (joins : Roster.Joins both first second)
    (fits : ∀ t, held = some t → t.Fits config.positionHistorySize id)
    (young : ∀ report, second.find? id = some report → ∀ t, held = some t →
      t.mayCircle = true → t.age now ≤ config.maxEntryAge) :
    next? config id (next? config id held ⟨now, first⟩) ⟨now, second⟩ =
      next? config id held ⟨now, both⟩ := by
  have heard := joins.find?_eq id
  -- The part with the report does the work of the whole tick, the other one is a cleanup before or after.
  cases reported : (⟨now, first⟩ : Tick).roster.find? id with
  | some report =>
    have absent : (⟨now, second⟩ : Tick).roster.find? id = none := joins.absent reported
    have same : next? config id held ⟨now, both⟩ = next? config id held ⟨now, first⟩ :=
      next?_congr rfl (by rw [heard, reported, Option.some_or])
    rw [same, next?_absent absent, next?_reported reported, Option.filter_filter]
    simp only [Bool.and_self]
  | none =>
    have same : next? config id held ⟨now, both⟩ = next? config id held ⟨now, second⟩ :=
      next?_congr rfl (by rw [heard, reported, Option.none_or])
    rw [same, next?_absent reported]
    exact next?_filter fits young

end Track

namespace Detector

theorem advance_joins {config : Config} {ticks : List Tick} {now : Instant} {both first second : Roster}
    (joins : Roster.Joins both first second)
    (young : ∀ id report, second.find? id = some report → ∀ t, tracked config ticks id = some t →
      t.mayCircle = true → t.age now ≤ config.maxEntryAge) :
    ((run config ticks).advance ⟨now, first⟩).advance ⟨now, second⟩ =
      (run config ticks).advance ⟨now, both⟩ := by
  apply Detector.ext
  · rw [config_advance, config_advance, config_advance]
  · apply Table.eq_of_get?
    intro id
    rw [get?_advance, get?_advance, get?_advance, config_advance, config_run, ← tracked_eq_get?_run]
    apply Track.next?_joins joins
    · intro t held
      exact ⟨id_of_tracked held, capacity_of_tracked held⟩
    · exact young id

/-- Reports of one time may come in two parts. Targets of the second part that may be circling have to be
young enough to outlive the cleanup behind the first one. -/
theorem handled_in_batches {config : Config} {calls : List Call} {first second both : Call}
    (time : second.time = first.time ∧ both.time = first.time)
    (joins : Roster.Joins both.picture.roster first.picture.roster second.picture.roster)
    (young : ∀ id report, second.picture.roster.find? id = some report →
      ∀ t, (respond config calls).1.table.get? id = some t → t.mayCircle = true →
        t.age first.time ≤ config.maxEntryAge) :
    let d := (respond config calls).1
    let whole := (d.handle both).1
    let parts := ((d.handle first).1.1.handle second).1
    parts.1 = whole.1 ∧ parts.2.thermals = whole.2.thermals := by
  intro d whole parts
  have reached : d = run config (calls.map Call.tick) := by rw [← session_fst, ← respond_eq_session]
  have same : (d.advance first.tick).advance second.tick = d.advance both.tick := by
    rw [reached, Call.tick, Call.tick, Call.tick, time.1, time.2]
    apply advance_joins joins
    intro id report reported t held
    rw [tracked_eq_get?_run, ← reached] at held
    exact young id report reported t held
  have together : whole = d.process (.ofRoster both.picture.roster) both.time :=
    handle_eq_process d both
  have apart : parts = (d.process (.ofRoster first.picture.roster) first.time).1.process
      (.ofRoster second.picture.roster) second.time := by
    rw [← handle_eq_process d first]
    exact handle_eq_process _ second
  have state : parts.1 = whole.1 := by
    rw [together, apart]
    exact same
  refine ⟨state, ?_⟩
  have shown : whole.2.thermals = whole.1.relevant both.time := by
    rw [together]
    rfl
  have shown_apart : parts.2.thermals = parts.1.relevant second.time := by
    rw [apart]
    rfl
  rw [shown, shown_apart, state, time.1, time.2]

theorem second_thermal_in_later_batch :
    let call (seconds : Int) (roster : Roster) : Call := ⟨.ofSeconds seconds, .ofRoster roster, .empty⟩
    let calls := Flight.opening.map fun tick => (⟨tick.time, .ofRoster tick.roster, .empty⟩ : Call)
    let newcomer := Flight.sighted ⟨0x400001, by decide⟩ 20.0 0.5
    let known := [Flight.sighted Flight.target 20.0 1.0, Flight.sighted Flight.other 20.0 1.0]
    let d := (respond Flight.settings calls).1
    let whole := (d.handle (call 14 (.ofList (known ++ [newcomer])))).1
    let between := (d.handle (call 14 (.ofList [newcomer]))).1.1
    let parts := (between.handle (call 14 (.ofList known))).1
    (d.table.get? Flight.target).map Track.phase = some .recentlyStopped ∧
      between.table.get? Flight.target = none ∧
      (parts.1.table.get? Flight.target).map Track.phase = some .potentiallyCircling ∧
      parts.1 = whole.1 ∧ parts.2.thermals = whole.2.thermals := by
  intro call calls newcomer known d whole between parts
  have joins : Roster.Joins (.ofList (known ++ [newcomer])) (.ofList [newcomer]) (.ofList known) :=
    ⟨by decide +kernel, by decide +kernel⟩
  have young : ∀ e ∈ d.table.entries, e.2.mayCircle = true →
      e.2.age (.ofSeconds 14) ≤ Flight.settings.maxEntryAge := by decide +kernel
  have same := @handled_in_batches Flight.settings calls (call 14 (.ofList [newcomer]))
    (call 14 (.ofList known)) (call 14 (.ofList (known ++ [newcomer]))) ⟨rfl, rfl⟩ joins
    fun id _ _ t held => young (id, t) ((d.table.get?_eq_some_iff id t).mp held)
  exact ⟨by decide +kernel, by decide +kernel, by decide +kernel, same⟩

end Detector
end Thermals.Detection
