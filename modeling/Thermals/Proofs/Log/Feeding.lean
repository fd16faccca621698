import Thermals.Proofs.Detection.Evidence
import Thermals.Proofs.Detection.Operations
import Thermals.Proofs.Log.Grouping

namespace Thermals.Log

open Time Traffic Detection

def targets (records : List (Option Record)) : List (Instant × FlarmId) :=
  records.filterMap fun row => row.bind fun record =>
    (FlarmId.parse record.id).toOption.map (Prod.mk record.time)

def recordsOf (time : Instant) (id : FlarmId) (records : List (Option Record)) : List Record :=
  records.filterMap fun row => row.filter fun record =>
    record.time = time ∧ (FlarmId.parse record.id).toOption = some id

theorem recordsOf_cons {record : Record} {report : Report} (read : record.report = .ok report)
    (time : Instant) (id : FlarmId) (rest : List (Option Record)) :
    recordsOf time id (some record :: rest) =
      if record.time = time ∧ report.id = id then record :: recordsOf time id rest
      else recordsOf time id rest := by
  have parsed := toOption_eq_some_iff.mpr (id_of_report read)
  by_cases here : record.time = time ∧ report.id = id <;>
    simp [recordsOf, Option.filter_some, parsed, here]

theorem mem_targets {records : List (Option Record)} {time : Instant} {id : FlarmId} :
    (time, id) ∈ targets records ↔
      ∃ record, some record ∈ records ∧ record.time = time ∧ FlarmId.parse record.id = .ok id := by
  simp only [targets, List.mem_filterMap, Option.bind_eq_some_iff, Option.map_eq_some_iff,
    Prod.mk.injEq, toOption_eq_some_iff]
  constructor
  · intro member
    obtain ⟨row, listed, record, rfl, other, parsed, now, rfl⟩ := member
    exact ⟨record, listed, now, parsed⟩
  · intro member
    obtain ⟨record, listed, now, parsed⟩ := member
    exact ⟨some record, listed, record, rfl, id, parsed, now, rfl⟩

/-- Ticks that hold what a log says: one for each of its times, with each target of that time once. -/
structure Gathers (records : List (Option Record)) (ticks : List Tick) : Prop where
  readable : ∀ row ∈ records, ∃ record report, row = some record ∧ record.report = .ok report
  rising : (ticks.map Tick.time).Pairwise (· < ·)
  times (time : Instant) :
    time ∈ ticks.map Tick.time ↔ ∃ record, some record ∈ records ∧ record.time = time
  once : ∀ tick ∈ ticks, (tick.roster.reports.map Report.id).Nodup
  order : ∀ tick ∈ ticks, tick.roster.reports.map Report.id =
    (((targets records).filter fun e => e.1 = tick.time).map Prod.snd).eraseDups
  heard : ∀ tick ∈ ticks, ∀ id, id ∈ tick.roster.reports.map Report.id ↔
    ∃ record, some record ∈ records ∧ record.time = tick.time ∧ FlarmId.parse record.id = .ok id
  last : ∀ tick ∈ ticks, ∀ report ∈ tick.roster.reports, ∃ record,
    (recordsOf tick.time report.id records).getLast? = some record ∧ record.report = .ok report

/-- What a replay of a log does to the detector. -/
structure Feeds (config : Config) (records : List (Option Record)) (ticks : List Tick) : Prop where
  driven : (Detector.session config ticks).1 =
    (operations ticks).foldl Operation.perform (.start config)
  shown (n : Nat) : ((Detector.start config).shown ticks)[n]? = ticks[n]?.map fun tick =>
    (tick, ((operations (ticks.take (n + 1))).foldl Operation.perform (.start config)).relevant
      tick.time)
  updates (time : Instant) (id : FlarmId) :
    ((operations ticks).filterMap Operation.updated?).count (time, id) =
      if (time, id) ∈ targets records then 1 else 0
  inOrder : (operations ticks).Pairwise Operation.Precedes
  cleanups : (operations ticks).filterMap Operation.cleaned? = ticks.map Tick.time
  samples (n : Nat) (id : FlarmId) (track : Track)
    (held : Detector.tracked config (ticks.take n) id = some track) :
    track.climb.samples ≤
      ((operations (ticks.take n)).filterMap Operation.updated?).countP fun e => e.2 = id

section Readable

variable {records : List (Option Record)}
  (readable : ∀ row ∈ records, ∃ record report, row = some record ∧ record.report = .ok report)
include readable

theorem targets_eq_map_logged :
    targets records = (logged records).map fun s => (s.time, s.report.id) := by
  induction records with
  | nil => rfl
  | cons row rest ih =>
    obtain ⟨record, report, rfl, read⟩ := readable row List.mem_cons_self
    have tail := ih fun row member => readable row (List.mem_cons_of_mem _ member)
    have first : targets (some record :: rest) = (record.time, report.id) :: targets rest := by
      simp [targets, toOption_eq_some_iff.mpr (id_of_report read)]
    rw [first, tail, logged_cons read, List.map_cons]

theorem map_report_recordsOf (time : Instant) (id : FlarmId) :
    (recordsOf time id records).map Record.report =
      ((reportsAt time (logged records)).filter fun report => report.id = id).map .ok := by
  induction records with
  | nil => rfl
  | cons row rest ih =>
    obtain ⟨record, report, rfl, read⟩ := readable row List.mem_cons_self
    have tail := ih fun row member => readable row (List.mem_cons_of_mem _ member)
    rw [logged_cons read, recordsOf_cons read]
    by_cases now : record.time = time
    · by_cases own : report.id = id
      · simpa [reportsAt, now, own, read] using tail
      · simpa [reportsAt, now, own] using tail
    · simpa [reportsAt, now] using tail

end Readable

theorem gathers_of_ticksOf {records : List (Option Record)} {ticks : List Tick}
    (read : ticksOf records = .ok ticks) : Gathers records ticks := by
  obtain ⟨readable, groups⟩ := groups_of_ticksOf read
  have targeted := targets_eq_map_logged readable
  have roster (tick : Tick) (member : tick ∈ ticks) :
      tick.roster = .ofList (reportsAt tick.time (logged records)) :=
    groups.roster tick (List.mem_reverse.mpr member)
  have order (tick : Tick) (member : tick ∈ ticks) : tick.roster.reports.map Report.id =
      (((targets records).filter fun e => e.1 = tick.time).map Prod.snd).eraseDups := by
    rw [roster tick member, Roster.ids_ofList, targeted, reportsAt, List.filter_map, List.map_map,
      List.map_map]
    rfl
  refine { readable, order, rising := ?_, times := ?_, once := ?_, heard := ?_, last := ?_ }
  · rw [List.pairwise_map, ← List.pairwise_reverse]
    exact groups.falling
  · intro time
    constructor
    · intro listed
      obtain ⟨tick, member, rfl⟩ := List.mem_map.mp listed
      have reported := groups.reported tick (List.mem_reverse.mpr member)
      obtain ⟨report, listed⟩ := List.exists_mem_of_ne_nil _ reported
      obtain ⟨record, logged, now, -⟩ := mem_logged.mp (mem_reportsAt.mp listed)
      exact ⟨record, logged, now⟩
    · intro recorded
      obtain ⟨record, listed, rfl⟩ := recorded
      obtain ⟨other, report, same, reported⟩ := readable _ listed
      obtain rfl := Option.some.inj same
      have logged := mem_logged.mpr ⟨record, listed, rfl, reported⟩
      obtain ⟨tick, member, now⟩ := groups.times _ logged
      exact List.mem_map.mpr ⟨tick, List.mem_reverse.mp member, now⟩
  · intro tick _
    exact tick.roster.nodup
  · intro tick member id
    rw [order tick member, List.mem_eraseDups, ← mem_targets]
    simp
  · intro tick member report listed
    have found : tick.roster.find? report.id = some report :=
      (tick.roster.find?_eq_some_iff report.id report).mpr ⟨listed, rfl⟩
    rw [roster tick member, Roster.find?_ofList] at found
    have latest := congrArg List.getLast? (map_report_recordsOf readable tick.time report.id)
    rw [List.getLast?_map, List.getLast?_map, found] at latest
    exact Option.map_eq_some_iff.mp latest

namespace Gathers

variable {records : List (Option Record)} {ticks : List Tick}

theorem mem_updated_iff (gathers : Gathers records ticks) (time : Instant) (id : FlarmId) :
    (time, id) ∈ (operations ticks).filterMap Operation.updated? ↔ (time, id) ∈ targets records := by
  rw [mem_updated_operations, mem_targets]
  constructor
  · intro updated
    obtain ⟨tick, member, rfl, report, listed, rfl⟩ := updated
    exact (gathers.heard tick member report.id).mp (List.mem_map_of_mem listed)
  · intro recorded
    obtain ⟨record, listed, now, parsed⟩ := recorded
    obtain ⟨tick, member, here⟩ := List.mem_map.mp ((gathers.times time).mpr ⟨record, listed, now⟩)
    have heard := (gathers.heard tick member id).mpr ⟨record, listed, now.trans here.symm, parsed⟩
    obtain ⟨report, listed, own⟩ := List.mem_map.mp heard
    exact ⟨tick, member, here, report, listed, own⟩

theorem feeds (gathers : Gathers records ticks) (config : Config) : Feeds config records ticks := by
  refine { driven := ?_, shown := ?_, updates := ?_, inOrder := ?_, cleanups := ?_, samples := ?_ }
  · rw [Detector.foldl_perform]
    exact Detector.session_fst config ticks
  · exact Detector.getElem?_shown _ ticks
  · intro time id
    rw [(nodup_updated_operations gathers.rising).count]
    simp only [gathers.mem_updated_iff]
  · exact precedes_operations gathers.rising
  · exact cleaned_operations ticks
  · intro n id track held
    have counted := Detector.samples_known config (ticks.take n) id
    rwa [Detector.known, Detector.prior_of_tracked held] at counted

end Gathers

/-- A log that can be read is replayed with one update for each target at each time that has a record
of it, whatever number of records that is. -/
theorem replayed_once_per_target {records : List (Option Record)} {ticks : List Tick}
    (read : ticksOf records = .ok ticks) :
    Gathers records ticks ∧ ∀ config, Feeds config records ticks := by
  have gathers := gathers_of_ticksOf read
  exact ⟨gathers, gathers.feeds⟩

def turned (seconds : Int) (id : String) (turnRate : Float) : Record where
  time := .ofSeconds seconds
  id
  latitude := some 0.0
  longitude := some 8.5
  turnRate := some turnRate
  climbRate := some 0.5
  name := none

theorem replayed_once_when_repeated :
    let records := [some (turned 0 "DD8F12" 3.0), some (turned 0 "3F0001" 3.0),
      some (turned 0 " dd8f12" 20.0), some (turned 2 "DD8F12" 20.0)]
    let ticks := [Flight.tick 0 [Flight.sighted Flight.target 20.0 0.5,
      Flight.sighted Flight.other 3.0 0.5], Flight.tick 2 [Flight.sighted Flight.target 20.0 0.5]]
    ticksOf records = .ok ticks ∧ (targets records).count (.ofSeconds 0, Flight.target) = 2 ∧
      ((operations ticks).filterMap Operation.updated?).count (.ofSeconds 0, Flight.target) = 1 ∧
      Gathers records ticks ∧ ∀ config, Feeds config records ticks := by
  intro records ticks
  have read : ticksOf records = .ok ticks := by decide +kernel
  obtain ⟨gathers, feeds⟩ := replayed_once_per_target read
  have twice : (targets records).count (.ofSeconds 0, Flight.target) = 2 := by decide +kernel
  have listed : (.ofSeconds 0, Flight.target) ∈ targets records := by
    apply List.count_pos_iff.mp
    omega
  refine ⟨read, twice, ?_, gathers, feeds⟩
  rw [(feeds Flight.settings).updates, if_pos listed]

end Thermals.Log
