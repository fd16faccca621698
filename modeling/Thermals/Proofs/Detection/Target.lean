import Mathlib.Data.List.Induction
import Mathlib.Data.List.Forall2
import Thermals.Proofs.Detection.Table
import Thermals.Proofs.Detection.Transition

namespace Thermals.Detection

open Time Traffic

structure Sighting where
  time : Instant
  report : Report
  deriving DecidableEq

def sightings (id : FlarmId) (ticks : List Tick) : List Sighting :=
  ticks.filterMap fun tick => (tick.roster.find? id).map (Sighting.mk tick.time)

theorem sightings_append (id : FlarmId) (ticks others : List Tick) :
    sightings id (ticks ++ others) = sightings id ticks ++ sightings id others :=
  List.filterMap_append

theorem sightings_reported {id : FlarmId} {tick : Tick} {report : Report}
    (reported : tick.roster.find? id = some report) : sightings id [tick] = [⟨tick.time, report⟩] := by
  simp [sightings, reported]

theorem sightings_absent {id : FlarmId} {tick : Tick} (absent : tick.roster.find? id = none) :
    sightings id [tick] = [] := by
  simp [sightings, absent]

namespace Track

def prior (config : Config) (id : FlarmId) (held : Option Track) : Track :=
  { held.getD (fresh id config.positionHistorySize) with id := id }

def next? (config : Config) (id : FlarmId) (held : Option Track) (tick : Tick) : Option Track :=
  let seen :=
    match tick.roster.find? id with
    | some report => some ((prior config id held).observe config tick.time report)
    | none => held
  seen.filter fun track => !track.isExpired tick.time config.maxRecentlyStoppedAge

theorem next?_reported {config : Config} {id : FlarmId} {held : Option Track} {tick : Tick}
    {report : Report} (reported : tick.roster.find? id = some report) :
    next? config id held tick = (some ((prior config id held).observe config tick.time report)).filter
      fun track => !track.isExpired tick.time config.maxRecentlyStoppedAge := by
  simp only [next?, reported]

theorem next?_absent {config : Config} {id : FlarmId} {held : Option Track} {tick : Tick}
    (absent : tick.roster.find? id = none) :
    next? config id held tick =
      held.filter fun track => !track.isExpired tick.time config.maxRecentlyStoppedAge := by
  simp only [next?, absent]

end Track

namespace Detector

theorem get?_update (d : Detector) (now : Instant) (report : Report) (id : FlarmId) :
    (d.update now report).table.get? id =
      if id = report.id then some ((Track.prior d.config id (d.table.get? id)).observe d.config now report)
      else d.table.get? id := by
  simp only [update, Table.get?_put]
  split
  · rename_i same
    subst same
    rfl
  · rfl

theorem config_foldl_update (reports : List Report) (d : Detector) (now : Instant) :
    (reports.foldl (fun d report => d.update now report) d).config = d.config := by
  induction reports generalizing d with
  | nil => rfl
  | cons report rest ih => exact ih (d.update now report)

theorem get?_foldl_update {reports : List Report} (nodup : (reports.map Report.id).Nodup)
    (d : Detector) (now : Instant) (id : FlarmId) :
    (reports.foldl (fun d report => d.update now report) d).table.get? id =
      match reports.find? (fun r => r.id = id) with
      | some report => some ((Track.prior d.config id (d.table.get? id)).observe d.config now report)
      | none => d.table.get? id := by
  induction reports generalizing d with
  | nil => rfl
  | cons report rest ih =>
    obtain ⟨once, nodup⟩ := List.nodup_cons.mp nodup
    rw [List.foldl_cons, ih nodup, get?_update]
    by_cases here : report.id = id
    · have absent : rest.find? (fun r => r.id = id) = none := by
        rw [List.find?_eq_none]
        intro r member same
        apply once
        rw [here, ← of_decide_eq_true same]
        exact List.mem_map_of_mem member
      simp only [List.find?_cons, here, decide_true, absent, if_true]
    · simp only [List.find?_cons, here, decide_false, Ne.symm here, if_false]
      rfl

theorem config_advance (d : Detector) (tick : Tick) : (d.advance tick).config = d.config :=
  config_foldl_update tick.roster.reports d tick.time

theorem get?_advance (d : Detector) (tick : Tick) (id : FlarmId) :
    (d.advance tick).table.get? id = Track.next? d.config id (d.table.get? id) tick := by
  simp only [advance, cleanup, Table.get?_sweep, config_foldl_update,
    get?_foldl_update tick.roster.nodup, Track.next?, Roster.find?]

/-- The detector and its last picture after some ticks, each of which comes with a new picture. -/
def session (config : Config) (ticks : List Tick) : Detector × Picture :=
  ticks.foldl (fun state tick => state.1.process (.ofRoster tick.roster) tick.time)
    (start config, .empty)

/-- What the detector holds on a target after some ticks. -/
def tracked (config : Config) (ticks : List Tick) (id : FlarmId) : Option Track :=
  (session config ticks).1.table.get? id

/-- What the last of some ticks shows of a target. -/
def published (config : Config) (ticks : List Tick) (id : FlarmId) : Option Track :=
  (session config ticks).2.thermals.get? id

theorem session_append_singleton (config : Config) (ticks : List Tick) (tick : Tick) :
    session config (ticks ++ [tick]) =
      (session config ticks).1.process (.ofRoster tick.roster) tick.time := by
  rw [session, List.foldl_append]
  rfl

theorem run_append_singleton (config : Config) (ticks : List Tick) (tick : Tick) :
    run config (ticks ++ [tick]) = (run config ticks).advance tick := by
  rw [run, List.foldl_append]
  rfl

theorem session_fst (config : Config) (ticks : List Tick) :
    (session config ticks).1 = run config ticks := by
  induction ticks using List.reverseRecOn with
  | nil => rfl
  | append_singleton ticks tick ih =>
    rw [session_append_singleton, run_append_singleton, ← ih]
    rfl

theorem config_run (config : Config) (ticks : List Tick) : (run config ticks).config = config := by
  induction ticks using List.reverseRecOn with
  | nil => rfl
  | append_singleton ticks tick ih => rw [run_append_singleton, config_advance, ih]

theorem tracked_eq_get?_run (config : Config) (ticks : List Tick) (id : FlarmId) :
    tracked config ticks id = (run config ticks).table.get? id := by
  rw [tracked, session_fst]

theorem tracked_append_singleton (config : Config) (ticks : List Tick) (tick : Tick)
    (id : FlarmId) :
    tracked config (ticks ++ [tick]) id = Track.next? config id (tracked config ticks id) tick := by
  rw [tracked_eq_get?_run, tracked_eq_get?_run, run_append_singleton, get?_advance, config_run]

theorem tracked_eq_foldl (config : Config) (ticks : List Tick) (id : FlarmId) :
    tracked config ticks id = ticks.foldl (Track.next? config id) none := by
  induction ticks using List.reverseRecOn with
  | nil => rfl
  | append_singleton ticks tick ih =>
    rw [tracked_append_singleton, ih, List.foldl_append]
    rfl

/-- Two runs side by side. What relates nothing to nothing and outlives each pair of ticks relates
what the two runs hold on a target. -/
theorem tracked_related {first second : Config} {id : FlarmId} {alike : Tick → Tick → Prop}
    (related : Option Track → Option Track → Prop) (start : related none none)
    (step : ∀ held other tick counterpart, alike tick counterpart → related held other →
      related (Track.next? first id held tick) (Track.next? second id other counterpart))
    {ticks counterparts : List Tick} (matched : List.Forall₂ alike ticks counterparts) :
    related (tracked first ticks id) (tracked second counterparts id) := by
  rw [tracked_eq_foldl, tracked_eq_foldl]
  refine List.rel_foldl ?_ start matched
  intro held other before tick counterpart same
  exact step held other tick counterpart same before

theorem tracked_cases {config : Config} {ticks : List Tick} {tick : Tick} {id : FlarmId}
    {track : Track} (held : tracked config (ticks ++ [tick]) id = some track) :
    (tick.roster.find? id = none ∧ tracked config ticks id = some track) ∨
      ∃ report, tick.roster.find? id = some report ∧
        (Track.prior config id (tracked config ticks id)).observe config tick.time report = track := by
  rw [tracked_append_singleton] at held
  cases reported : tick.roster.find? id with
  | none =>
    rw [Track.next?_absent reported, Option.filter_eq_some_iff] at held
    exact Or.inl ⟨rfl, held.1⟩
  | some report =>
    rw [Track.next?_reported reported, Option.filter_eq_some_iff] at held
    exact Or.inr ⟨report, rfl, Option.some.inj held.1⟩

theorem published_append_singleton (config : Config) (ticks : List Tick) (tick : Tick)
    (id : FlarmId) :
    published config (ticks ++ [tick]) id = (tracked config (ticks ++ [tick]) id).filter
      fun track => track.isRelevant tick.time config.maxRecentlyStoppedAge := by
  have shown : published config (ticks ++ [tick]) id =
      ((session config (ticks ++ [tick])).1.relevant tick.time).get? id := by
    rw [published, session_append_singleton]
    rfl
  rw [shown, relevant, Table.get?_relevant, session_fst, config_run, tracked_eq_get?_run]

theorem tracked_invariant {config : Config} {id : FlarmId} {P : Track → Prop}
    (fresh : P (.fresh id config.positionHistorySize))
    (observe : ∀ track now report, P track → P ({ track with id := id }.observe config now report))
    {ticks : List Tick} {track : Track} (held : tracked config ticks id = some track) : P track := by
  induction ticks using List.reverseRecOn generalizing track with
  | nil => cases held
  | append_singleton ticks tick ih =>
    rcases tracked_cases held with ⟨_, held⟩ | ⟨report, _, rfl⟩
    · exact ih held
    · apply observe
      cases before : tracked config ticks id with
      | none => exact fresh
      | some track => exact ih before

theorem id_of_tracked {config : Config} {ticks : List Tick} {id : FlarmId} {track : Track}
    (held : tracked config ticks id = some track) : track.id = id := by
  apply tracked_invariant (P := fun track => track.id = id) rfl ?_ held
  intro track now report _
  exact Track.id_observe

theorem capacity_of_tracked {config : Config} {ticks : List Tick} {id : FlarmId} {track : Track}
    (held : tracked config ticks id = some track) :
    track.history.capacity = max config.positionHistorySize 1 := by
  apply tracked_invariant
    (P := fun track => track.history.capacity = max config.positionHistorySize 1) rfl ?_ held
  intro track now report capacity
  rw [Track.capacity_observe, ← capacity]

theorem prior_of_tracked {config : Config} {ticks : List Tick} {id : FlarmId} {track : Track}
    (held : tracked config ticks id = some track) :
    Track.prior config id (tracked config ticks id) = track := by
  rw [held, ← id_of_tracked held]
  rfl

theorem tracked_of_prior {config : Config} {ticks : List Tick} {id : FlarmId}
    (known : (Track.prior config id (tracked config ticks id)).phase ≠ .idle) :
    tracked config ticks id = some (Track.prior config id (tracked config ticks id)) := by
  cases held : tracked config ticks id with
  | none =>
    rw [held] at known
    exact absurd rfl known
  | some track => rw [← held, prior_of_tracked held, held]

theorem capacity_prior (config : Config) (ticks : List Tick) (id : FlarmId) :
    (Track.prior config id (tracked config ticks id)).history.capacity =
      max config.positionHistorySize 1 := by
  cases held : tracked config ticks id with
  | none => rfl
  | some track =>
    rw [← held, prior_of_tracked held]
    exact capacity_of_tracked held

theorem tracked_of_absent {config : Config} {ticks : List Tick} {tick : Tick} {id : FlarmId}
    {track : Track} (held : tracked config ticks id = some track)
    (absent : tick.roster.find? id = none)
    (kept : track.isExpired tick.time config.maxRecentlyStoppedAge = false) :
    tracked config (ticks ++ [tick]) id = some track := by
  rw [tracked_append_singleton, Track.next?_absent absent, held]
  simp [kept]

theorem tracked_of_reported {config : Config} {ticks : List Tick} {tick : Tick} {id : FlarmId}
    {report : Report} (reported : tick.roster.find? id = some report)
    (kept : ((Track.prior config id (tracked config ticks id)).observe config tick.time
      report).isExpired tick.time config.maxRecentlyStoppedAge = false) :
    tracked config (ticks ++ [tick]) id =
      some ((Track.prior config id (tracked config ticks id)).observe config tick.time report) := by
  rw [tracked_append_singleton, Track.next?_reported reported]
  simp [kept]

end Detector
end Thermals.Detection
