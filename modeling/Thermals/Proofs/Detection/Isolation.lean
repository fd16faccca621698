import Thermals.Proofs.Traffic.Roster
import Thermals.Proofs.Detection.Evidence
import Thermals.Proofs.Detection.Publication

namespace Thermals.Detection

open Time Traffic

def Tick.only (id : FlarmId) (tick : Tick) : Tick := { tick with roster := tick.roster.only id }

theorem Track.next?_congr {config : Config} {id : FlarmId} {held : Option Track} {tick other : Tick}
    (time : other.time = tick.time) (heard : other.roster.find? id = tick.roster.find? id) :
    next? config id held other = next? config id held tick := by
  rw [next?, next?, time, heard]

namespace Detector

theorem tracked_only (config : Config) (ticks : List Tick) (id : FlarmId) :
    tracked config (ticks.map (Tick.only id)) id = tracked config ticks id := by
  have matched : List.Forall₂ (fun other tick => other = Tick.only id tick)
      (ticks.map (Tick.only id)) ticks := by
    rw [List.forall₂_map_left_iff, List.forall₂_same]
    intro tick _
    rfl
  apply tracked_related Eq rfl ?_ matched
  intro held other restricted tick same before
  rw [same, before]
  exact Track.next?_congr rfl (Roster.find?_only id tick.roster)

theorem foldl_update_perm {reports others : List Report} (nodup : (reports.map Report.id).Nodup)
    (reordered : others.Perm reports) (d : Detector) (now : Instant) :
    others.foldl (fun d report => d.update now report) d =
      reports.foldl (fun d report => d.update now report) d := by
  have others_nodup : (others.map Report.id).Nodup := (reordered.map Report.id).nodup_iff.mpr nodup
  apply Detector.ext
  · rw [config_foldl_update, config_foldl_update]
  · apply Table.eq_of_get?
    intro id
    rw [get?_foldl_update others_nodup, get?_foldl_update nodup, Keyed.find?_perm nodup reordered]

def retained (d : Detector) (now : Instant) (entries : List (FlarmId × Track)) : Table :=
  .collect (entries.filter fun e => !e.2.isExpired now d.config.maxRecentlyStoppedAge)

def copied (d : Detector) (now : Instant) (entries : List (FlarmId × Track)) : Table :=
  let relevant := entries.filter fun e => e.2.isRelevant now d.config.maxRecentlyStoppedAge
  .collect (relevant.map fun e => (e.2.id, e.2))

theorem cleanup_eq_retained {d : Detector} {entries : List (FlarmId × Track)}
    (reordered : entries.Perm d.table.entries) (now : Instant) :
    d.cleanup now = { d with table := d.retained now entries } := by
  have swept : d.retained now entries = d.table.sweep now d.config.maxRecentlyStoppedAge :=
    Table.collect_perm (reordered.filter _)
  rw [swept]
  rfl

theorem relevant_eq_copied {d : Detector} {entries : List (FlarmId × Track)}
    (keyed : ∀ e ∈ d.table.entries, e.2.id = e.1) (reordered : entries.Perm d.table.entries)
    (now : Instant) : d.relevant now = d.copied now entries := by
  have own : (entries.filter fun e => e.2.isRelevant now d.config.maxRecentlyStoppedAge).map
      (fun e => (e.2.id, e.2)) =
      (entries.filter fun e => e.2.isRelevant now d.config.maxRecentlyStoppedAge).map id := by
    apply List.map_congr_left
    intro e member
    have known := reordered.subset (List.mem_filter.mp member).1
    rw [keyed e known]
    rfl
  rw [copied, own, List.map_id]
  exact (Table.collect_perm (reordered.filter _)).symm

/-- One tick that takes the reports in some order, and goes through the table in some order when it
drops what is expired and again when it copies out what is shown. -/
inductive Shuffled (d : Detector) (tick : Tick) : Detector → Table → Prop
  | tick {reports : List Report} {seen after : Detector} {swept listed : List (FlarmId × Track)}
      (reported : reports.Perm tick.roster.reports)
      (taken : seen = reports.foldl (fun d report => d.update tick.time report) d)
      (visited : swept.Perm seen.table.entries)
      (kept : after = { seen with table := seen.retained tick.time swept })
      (viewed : listed.Perm after.table.entries) :
      Shuffled d tick after (after.copied tick.time listed)

inductive ShuffledRun (config : Config) : List Tick → Detector → Table → Prop
  | start : ShuffledRun config [] (start config) .empty
  | tick {ticks : List Tick} {d after : Detector} {earlier shown : Table} {tick : Tick}
      (before : ShuffledRun config ticks d earlier) (next : Shuffled d tick after shown) :
      ShuffledRun config (ticks ++ [tick]) after shown

theorem Shuffled.eq_advance {d after : Detector} {tick : Tick} {shown : Table}
    (shuffled : Shuffled d tick after shown)
    (keyed : ∀ e ∈ (d.advance tick).table.entries, e.2.id = e.1) :
    after = d.advance tick ∧ shown = (d.advance tick).relevant tick.time := by
  cases shuffled with
  | tick reported taken visited kept viewed =>
    have same : after = d.advance tick := by
      rw [kept, ← cleanup_eq_retained visited, taken,
        foldl_update_perm tick.roster.nodup reported]
      rfl
    refine ⟨same, ?_⟩
    rw [← same] at keyed ⊢
    exact (relevant_eq_copied keyed viewed tick.time).symm

theorem keyed_advance (config : Config) (ticks : List Tick) (tick : Tick) :
    ∀ e ∈ ((session config ticks).1.advance tick).table.entries, e.2.id = e.1 := by
  intro e member
  have held : tracked config (ticks ++ [tick]) e.1 = some e.2 := by
    rw [tracked, session_append_singleton, Table.get?_eq_some_iff]
    exact member
  exact id_of_tracked held

/-- The reports of other targets are as good as not there, in whatever order a tick goes about it. -/
theorem isolated_from_others (config : Config) (ticks : List Tick) (id : FlarmId) :
    tracked config (ticks.map (Tick.only id)) id = tracked config ticks id ∧
      published config (ticks.map (Tick.only id)) id = published config ticks id ∧
      ∀ d shown, ShuffledRun config ticks d shown →
        d = (session config ticks).1 ∧ shown = (session config ticks).2.thermals := by
  refine ⟨tracked_only config ticks id, ?_, ?_⟩
  · rw [published_eq_filter_tracked, published_eq_filter_tracked, tracked_only]
  · intro d shown shuffled
    induction shuffled with
    | start => exact ⟨rfl, rfl⟩
    | @tick ticks d after _ shown tick _ next ih =>
      have next := next.eq_advance
      rw [ih.1] at next
      rw [session_append_singleton]
      exact next (keyed_advance config ticks tick)

theorem isolated_of_reversed_orders :
    let reports := [Flight.sighted Flight.target 20.0 0.5, Flight.sighted Flight.other 20.0 0.5]
    let ticks := [Flight.tick 0 reports, Flight.tick 2 reports]
    ∃ d shown, ShuffledRun Flight.settings ticks d shown ∧ shown.size = 2 ∧
      d = (session Flight.settings ticks).1 ∧ shown = (session Flight.settings ticks).2.thermals := by
  intro reports ticks
  have reversed (d : Detector) (tick : Tick) : ∃ after shown, Shuffled d tick after shown :=
    ⟨_, _, .tick (List.reverse_perm _) rfl (List.reverse_perm _) rfl (List.reverse_perm _)⟩
  obtain ⟨d, earlier, first⟩ := reversed (start Flight.settings) (Flight.tick 0 reports)
  obtain ⟨after, shown, second⟩ := reversed d (Flight.tick 2 reports)
  have shuffled : ShuffledRun Flight.settings ticks after shown := .tick (.tick .start first) second
  obtain ⟨-, -, ordered⟩ := isolated_from_others Flight.settings ticks Flight.target
  obtain ⟨state, picture⟩ := ordered after shown shuffled
  refine ⟨after, shown, shuffled, ?_, state, picture⟩
  rw [picture]
  decide +kernel

end Detector
end Thermals.Detection
