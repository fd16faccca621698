import Thermals.Proofs.Log.Acceptance

namespace Thermals

open Time Traffic Detection

structure Detection.Tick.SameReports (tick other : Tick) : Prop where
  time : other.time = tick.time
  reports : other.roster.reports.Perm tick.roster.reports

theorem Traffic.Roster.perm_of_find? {roster other : Roster}
    (alike : ∀ id, other.find? id = roster.find? id) : other.reports.Perm roster.reports := by
  apply (List.perm_ext_iff_of_nodup ?_ ?_).mpr
  · intro report
    have found (roster : Roster) :
        report ∈ roster.reports ↔ roster.find? report.id = some report := by
      simp [roster.find?_eq_some_iff]
    rw [found other, found roster, alike]
  · exact List.Nodup.of_map Report.id other.nodup
  · exact List.Nodup.of_map Report.id roster.nodup

namespace Log

def tells (id : FlarmId) (row : Option Record) : Bool :=
  row.any fun record => (FlarmId.parse record.id).toOption = some id

/-- Every record is at the place of one with the same time, and those of each target are in the same
order as before. -/
structure Reordered (records others : List (Option Record)) : Prop where
  perm : others.Perm records
  times : others.map (Option.map Record.time) = records.map (Option.map Record.time)
  order (id : FlarmId) : others.filter (tells id) = records.filter (tells id)

theorem Reordered.swap {a b : Option Record} (apart : ∀ id, tells id a = true → tells id b = false)
    (time : a.map Record.time = b.map Record.time) (earlier later : List (Option Record)) :
    Reordered (earlier ++ a :: b :: later) (earlier ++ b :: a :: later) := by
  refine ⟨(List.Perm.swap a b later).append_left earlier, by simp [time], ?_⟩
  intro id
  have one := apart id
  cases first : tells id a with
  | false => simp [List.filter_cons, first]
  | true => simp [first, one first]

structure Rearranged (log other : List Sighting) : Prop where
  times : other.map Sighting.time = log.map Sighting.time
  order (id : FlarmId) :
    other.filter (fun s => s.report.id = id) = log.filter fun s => s.report.id = id

section Readable

variable {records : List (Option Record)}
  (readable : ∀ row ∈ records, ∃ record report, row = some record ∧ record.report = .ok report)
include readable

theorem map_time_logged :
    (logged records).map Sighting.time = records.filterMap (Option.map Record.time) := by
  induction records with
  | nil => rfl
  | cons row rest ih =>
    obtain ⟨record, report, rfl, read⟩ := readable row List.mem_cons_self
    have tail := ih fun row member => readable row (List.mem_cons_of_mem _ member)
    rw [logged_cons read, List.map_cons, tail]
    rfl

theorem filter_logged (id : FlarmId) :
    (logged records).filter (fun s => s.report.id = id) = logged (records.filter (tells id)) := by
  induction records with
  | nil => rfl
  | cons row rest ih =>
    obtain ⟨record, report, rfl, read⟩ := readable row List.mem_cons_self
    have tail := ih fun row member => readable row (List.mem_cons_of_mem _ member)
    have parsed := toOption_eq_some_iff.mpr (id_of_report read)
    have told : tells id (some record) = decide (report.id = id) := by
      simp [tells, parsed]
    rw [logged_cons read, List.filter_cons, List.filter_cons, told, tail]
    split
    · rw [logged_cons read]
    · rfl

end Readable

theorem Reordered.rearranged {records others : List (Option Record)}
    (reordered : Reordered records others)
    (readable : ∀ row ∈ records, ∃ record report, row = some record ∧ record.report = .ok report) :
    Rearranged (logged records) (logged others) := by
  have others_readable : ∀ row ∈ others, ∃ record report, row = some record ∧
      record.report = .ok report := fun row member => readable row (reordered.perm.subset member)
  constructor
  · rw [map_time_logged readable, map_time_logged others_readable]
    have times := congrArg (List.filterMap id) reordered.times
    simpa [List.filterMap_map] using times
  · intro id
    rw [filter_logged others_readable, filter_logged readable, reordered.order]

theorem Rearranged.reportsAt {log other : List Sighting} (rearranged : Rearranged log other)
    (time : Instant) (id : FlarmId) :
    (reportsAt time other).filter (fun r => r.id = id) =
      (reportsAt time log).filter fun r => r.id = id := by
  have swapped (log : List Sighting) : (Log.reportsAt time log).filter (fun r => r.id = id) =
      ((log.filter fun s => s.report.id = id).filter fun s => s.time = time).map Sighting.report := by
    rw [Log.reportsAt, List.filter_map, List.filter_comm]
    rfl
  rw [swapped other, swapped log, rearranged.order]

theorem forall₂_of_map_eq {α β κ : Type} {f : α → κ} {g : β → κ} {related : α → β → Prop}
    {items : List α} {others : List β} (same : items.map f = others.map g)
    (each : ∀ a ∈ items, ∀ b ∈ others, f a = g b → related a b) :
    List.Forall₂ related items others := by
  induction items generalizing others with
  | nil =>
    obtain rfl := List.map_eq_nil_iff.mp same.symm
    exact .nil
  | cons a rest ih =>
    cases others with
    | nil => cases same
    | cons b others =>
      obtain ⟨here, later⟩ := List.cons_eq_cons.mp same
      apply List.Forall₂.cons (each a List.mem_cons_self b List.mem_cons_self here)
      apply ih later
      intro a member b other_member
      exact each a (List.mem_cons_of_mem _ member) b (List.mem_cons_of_mem _ other_member)

namespace Groups

variable {log other : List Sighting} {ticks others : List Tick}

theorem mem_times (groups : Groups log ticks) (time : Instant) :
    time ∈ ticks.map Tick.time ↔ time ∈ log.map Sighting.time := by
  simp only [List.mem_map]
  constructor
  · intro listed
    obtain ⟨tick, member, rfl⟩ := listed
    obtain ⟨report, reported⟩ := List.exists_mem_of_ne_nil _ (groups.reported tick member)
    exact ⟨_, mem_reportsAt.mp reported, rfl⟩
  · intro listed
    obtain ⟨s, member, rfl⟩ := listed
    exact groups.times s member

theorem times_eq (groups : Groups log ticks) (other_groups : Groups other others)
    (same : other.map Sighting.time = log.map Sighting.time) :
    others.map Tick.time = ticks.map Tick.time := by
  have falls {log : List Sighting} {ticks : List Tick} (groups : Groups log ticks) :
      (ticks.map Tick.time).Pairwise (fun later earlier => earlier < later) :=
    List.pairwise_map.mpr groups.falling
  have once {log : List Sighting} {ticks : List Tick} (groups : Groups log ticks) :
      (ticks.map Tick.time).Nodup :=
    (falls groups).imp fun less => (Instant.ne_of_lt less).symm
  have reordered : (others.map Tick.time).Perm (ticks.map Tick.time) := by
    apply (List.perm_ext_iff_of_nodup (once other_groups) (once groups)).mpr
    intro time
    rw [other_groups.mem_times, groups.mem_times, same]
  -- times fall strictly on both sides, which leaves one order for the same members
  apply reordered.eq_of_pairwise ?_ (falls other_groups) (falls groups)
  intro a b _ _ less greater
  exact absurd less (Int.lt_asymm greater)

theorem sameReports (groups : Groups log ticks) (other_groups : Groups other others)
    (rearranged : Rearranged log other) : List.Forall₂ Tick.SameReports ticks others := by
  apply forall₂_of_map_eq (groups.times_eq other_groups rearranged.times).symm
  intro tick member counterpart other_member same
  refine ⟨same.symm, ?_⟩
  apply Roster.perm_of_find?
  intro id
  rw [other_groups.roster counterpart other_member, groups.roster tick member, Roster.find?_ofList,
    Roster.find?_ofList, ← same, rearranged.reportsAt]

end Groups

theorem ticksOf_of_reordered {records others : List (Option Record)} {ticks : List Tick}
    (read : ticksOf records = .ok ticks) (reordered : Reordered records others) :
    ∃ counterparts, ticksOf others = .ok counterparts ∧
      List.Forall₂ Tick.SameReports ticks counterparts := by
  obtain ⟨readable, rising⟩ := ticksOf_ok_iff.mp ⟨ticks, read⟩
  have rearranged := reordered.rearranged readable
  rw [← rearranged.times] at rising
  have others_readable : ∀ row ∈ others, ∃ record report, row = some record ∧
      record.report = .ok report := fun row member => readable row (reordered.perm.subset member)
  obtain ⟨counterparts, other_read⟩ := ticksOf_ok_iff.mpr ⟨others_readable, rising⟩
  refine ⟨counterparts, other_read, ?_⟩
  have groups := (groups_of_ticksOf read).2
  have other_groups := (groups_of_ticksOf other_read).2
  exact List.forall₂_reverse_iff.mp (groups.sameReports other_groups rearranged)

end Log
end Thermals
