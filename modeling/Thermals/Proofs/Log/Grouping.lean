import Thermals.Log.Ticks
import Thermals.Proofs.Detection.Target
import Thermals.Proofs.Time.Elapsed
import Thermals.Proofs.Traffic.Roster

namespace Thermals.Log

open Time Traffic Detection

def logged (records : List (Option Record)) : List Sighting :=
  records.filterMap fun row => row.bind fun record =>
    record.report.toOption.map (Sighting.mk record.time)

theorem toOption_eq_some_iff {ε α : Type} {outcome : Except ε α} {a : α} :
    outcome.toOption = some a ↔ outcome = .ok a := by
  cases outcome <;> simp [Except.toOption]

theorem bind_eq_ok_iff {ε α β : Type} {first : Except ε α} {next : α → Except ε β} {b : β} :
    first >>= next = .ok b ↔ ∃ a, first = .ok a ∧ next a = .ok b := by
  cases first <;> simp [bind, Except.bind]

theorem mapError_eq_ok_iff {ε δ α : Type} {outcome : Except ε α} {f : ε → δ} {a : α} :
    outcome.mapError f = .ok a ↔ outcome = .ok a := by
  cases outcome <;> simp [Except.mapError]

theorem logged_cons {record : Record} {report : Report} (read : record.report = .ok report)
    (rest : List (Option Record)) :
    logged (some record :: rest) = ⟨record.time, report⟩ :: logged rest := by
  simp [logged, toOption_eq_some_iff.mpr read]

def reportsAt (time : Instant) (log : List Sighting) : List Report :=
  (log.filter fun s => s.time = time).map Sighting.report

theorem reportsAt_append_singleton (time : Instant) (log : List Sighting) (s : Sighting) :
    reportsAt time (log ++ [s]) =
      reportsAt time log ++ if s.time = time then [s.report] else [] := by
  by_cases now : s.time = time <;> simp [reportsAt, now]

theorem addReport_cases {time : Instant} {report : Report} {ticks next : List Tick}
    (added : addReport time report ticks = .ok next) :
    (∃ last earlier, ticks = last :: earlier ∧ last.time = time ∧
      next = { last with roster := last.roster.insert report } :: earlier) ∨
    (∀ last ∈ ticks.head?, last.time < time) ∧ next = ⟨time, .ofList [report]⟩ :: ticks := by
  cases ticks with
  | nil => exact Or.inr ⟨by simp, (Except.ok.inj added).symm⟩
  | cons last earlier =>
    simp only [addReport] at added
    split at added
    · rename_i same
      exact Or.inl ⟨last, earlier, rfl, same, (Except.ok.inj added).symm⟩
    · rename_i differ
      split at added
      · cases added
      · rename_i notLess
        refine Or.inr ⟨?_, (Except.ok.inj added).symm⟩
        intro tick head
        obtain rfl := Option.some.inj head
        exact Instant.lt_of_not_lt notLess differ

theorem addRecord_eq_ok {row : Option Record} {ticks next : List Tick}
    (added : addRecord ticks row = .ok next) :
    ∃ record report, row = some record ∧ record.report = .ok report ∧
      addReport record.time report ticks = .ok next := by
  cases row with
  | none => cases added
  | some record =>
    obtain ⟨report, read, added⟩ := bind_eq_ok_iff.mp (mapError_eq_ok_iff.mp added)
    exact ⟨record, report, rfl, read, added⟩

/-- Ticks, the last one first, that hold all of a log: one for each time, with the reports of that
time. -/
structure Groups (log : List Sighting) (ticks : List Tick) : Prop where
  falling : ticks.Pairwise fun later earlier => earlier.time < later.time
  times : ∀ s ∈ log, ∃ tick ∈ ticks, tick.time = s.time
  reported : ∀ tick ∈ ticks, reportsAt tick.time log ≠ []
  roster : ∀ tick ∈ ticks, tick.roster = .ofList (reportsAt tick.time log)

namespace Groups

variable {log : List Sighting} {ticks next : List Tick} {time : Instant} {report : Report}

theorem nil : Groups [] [] := by
  refine ⟨List.Pairwise.nil, ?_, ?_, ?_⟩ <;> intro _ member <;> cases member

theorem time_lt (groups : Groups log ticks) (after : ∀ last ∈ ticks.head?, last.time < time) :
    ∀ tick ∈ ticks, tick.time < time := by
  cases ticks with
  | nil => simp
  | cons last earlier =>
    have latest : last.time < time := after last rfl
    intro tick member
    rcases List.mem_cons.mp member with rfl | member
    · exact latest
    · exact Int.lt_trans ((List.pairwise_cons.mp groups.falling).1 tick member) latest

theorem extend {s : Sighting} {earlier : List Tick} {roster : Roster}
    (falling : earlier.Pairwise fun later earlier => earlier.time < later.time)
    (older : ∀ tick ∈ earlier, tick.time < s.time)
    (times : ∀ other ∈ log, other.time = s.time ∨ ∃ tick ∈ earlier, tick.time = other.time)
    (reported : ∀ tick ∈ earlier, reportsAt tick.time log ≠ [])
    (rosters : ∀ tick ∈ earlier, tick.roster = .ofList (reportsAt tick.time log))
    (filled : roster = .ofList (reportsAt s.time log ++ [s.report])) :
    Groups (log ++ [s]) (⟨s.time, roster⟩ :: earlier) := by
  have untouched (tick : Tick) (member : tick ∈ earlier) :
      reportsAt tick.time (log ++ [s]) = reportsAt tick.time log := by
    have differ := (Instant.ne_of_lt (older tick member)).symm
    rw [reportsAt_append_singleton, if_neg differ, List.append_nil]
  have now : reportsAt s.time (log ++ [s]) = reportsAt s.time log ++ [s.report] := by
    rw [reportsAt_append_singleton, if_pos rfl]
  refine ⟨List.pairwise_cons.mpr ⟨older, falling⟩, ?_, ?_, ?_⟩
  · intro other member
    rcases List.mem_append.mp member with member | member
    · rcases times other member with same | ⟨tick, member, same⟩
      · exact ⟨_, List.mem_cons_self, same.symm⟩
      · exact ⟨tick, List.mem_cons_of_mem _ member, same⟩
    · rw [List.mem_singleton.mp member]
      exact ⟨_, List.mem_cons_self, rfl⟩
  · intro tick member
    rcases List.mem_cons.mp member with rfl | member
    · rw [now]
      simp
    · rw [untouched tick member]
      exact reported tick member
  · intro tick member
    rcases List.mem_cons.mp member with rfl | member
    · rw [now, filled]
    · rw [untouched tick member]
      exact rosters tick member

theorem joins {last : Tick} {earlier : List Tick} (groups : Groups log (last :: earlier))
    (report : Report) :
    Groups (log ++ [⟨last.time, report⟩])
      ({ last with roster := last.roster.insert report } :: earlier) := by
  obtain ⟨older, falling⟩ := List.pairwise_cons.mp groups.falling
  apply Groups.extend falling older
  · intro other member
    obtain ⟨tick, member, same⟩ := groups.times other member
    rcases List.mem_cons.mp member with rfl | member
    · exact Or.inl same.symm
    · exact Or.inr ⟨tick, member, same⟩
  · intro tick member
    exact groups.reported tick (List.mem_cons_of_mem _ member)
  · intro tick member
    exact groups.roster tick (List.mem_cons_of_mem _ member)
  · rw [Roster.ofList_append_singleton, ← groups.roster last List.mem_cons_self]

theorem opens (groups : Groups log ticks) (report : Report)
    (after : ∀ last ∈ ticks.head?, last.time < time) :
    Groups (log ++ [⟨time, report⟩]) (⟨time, .ofList [report]⟩ :: ticks) := by
  have older := groups.time_lt after
  have unheard : log.filter (fun s => s.time = time) = [] := by
    rw [List.filter_eq_nil_iff]
    intro s member now
    obtain ⟨tick, held, same⟩ := groups.times s member
    exact Instant.ne_of_lt (older tick held) (same.trans (of_decide_eq_true now))
  apply Groups.extend groups.falling older ?_ groups.reported groups.roster
  · rw [reportsAt, unheard]
    rfl
  · intro other member
    exact Or.inr (groups.times other member)

theorem addReport (groups : Groups log ticks) (added : addReport time report ticks = .ok next) :
    Groups (log ++ [⟨time, report⟩]) next := by
  rcases addReport_cases added with ⟨last, earlier, rfl, rfl, rfl⟩ | ⟨after, rfl⟩
  · exact groups.joins report
  · exact groups.opens report after

theorem foldlM {records : List (Option Record)} (groups : Groups log ticks)
    (read : records.foldlM addRecord ticks = .ok next) :
    (∀ row ∈ records, ∃ record report, row = some record ∧ record.report = .ok report) ∧
      Groups (log ++ logged records) next := by
  -- Induction on the rows that are left; the ones before them are in the log of the invariant.
  induction records generalizing log ticks with
  | nil =>
    cases read
    exact ⟨by simp, by simpa [logged] using groups⟩
  | cons row rest ih =>
    rw [List.foldlM_cons] at read
    obtain ⟨middle, first, remaining⟩ := bind_eq_ok_iff.mp read
    obtain ⟨record, report, rfl, reported, added⟩ := addRecord_eq_ok first
    obtain ⟨readable, all⟩ := ih (groups.addReport added) remaining
    refine ⟨List.forall_mem_cons.mpr ⟨⟨record, report, rfl, reported⟩, readable⟩, ?_⟩
    rw [logged_cons reported]
    simpa using all

end Groups

theorem groups_of_ticksOf {records : List (Option Record)} {ticks : List Tick}
    (read : ticksOf records = .ok ticks) :
    (∀ row ∈ records, ∃ record report, row = some record ∧ record.report = .ok report) ∧
      Groups (logged records) ticks.reverse := by
  unfold ticksOf at read
  cases all : records.foldlM addRecord [] with
  | error fault =>
    rw [all] at read
    cases read
  | ok latest =>
    rw [all] at read
    obtain rfl : latest.reverse = ticks := Except.ok.inj read
    rw [List.reverse_reverse]
    exact Groups.nil.foldlM all

theorem mem_reportsAt {time : Instant} {log : List Sighting} {report : Report} :
    report ∈ reportsAt time log ↔ ⟨time, report⟩ ∈ log := by
  simp only [reportsAt, List.mem_map, List.mem_filter, decide_eq_true_eq]
  constructor
  · intro listed
    obtain ⟨s, ⟨member, rfl⟩, rfl⟩ := listed
    exact member
  · intro member
    exact ⟨_, ⟨member, rfl⟩, rfl⟩

theorem mem_logged {records : List (Option Record)} {time : Instant} {report : Report} :
    ⟨time, report⟩ ∈ logged records ↔
      ∃ record, some record ∈ records ∧ record.time = time ∧ record.report = .ok report := by
  simp only [logged, List.mem_filterMap, Option.bind_eq_some_iff, Option.map_eq_some_iff,
    Sighting.mk.injEq, toOption_eq_some_iff]
  constructor
  · intro member
    obtain ⟨row, listed, record, rfl, other, read, now, rfl⟩ := member
    exact ⟨record, listed, now, read⟩
  · intro member
    obtain ⟨record, listed, now, read⟩ := member
    exact ⟨some record, listed, record, rfl, report, read, now, rfl⟩

theorem id_of_report {record : Record} {report : Report} (read : record.report = .ok report) :
    FlarmId.parse record.id = .ok report.id := by
  obtain ⟨id, parsed, read⟩ := bind_eq_ok_iff.mp read
  obtain ⟨location, -, read⟩ := bind_eq_ok_iff.mp read
  split at read
  · rw [← Except.ok.inj read]
    exact mapError_eq_ok_iff.mp parsed
  · cases read

end Thermals.Log
