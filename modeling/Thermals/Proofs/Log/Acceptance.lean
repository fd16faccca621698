import Thermals.Proofs.Log.Grouping

namespace Thermals.Log

open Time Traffic Detection

variable {time : Instant} {record : Record} {report : Report} {records : List (Option Record)}
  {ticks next : List Tick}

theorem addReport_ok_iff :
    (∃ next, addReport time report ticks = .ok next) ↔ ∀ last ∈ ticks.head?, last.time ≤ time := by
  cases ticks with
  | nil => simp [addReport]
  | cons last earlier =>
    have notLater : last.time ≤ time ↔ last.time = time ∨ ¬ time < last.time := by
      rw [Instant.ext_iff, Instant.le_def, Instant.lt_def]
      omega
    simp only [addReport, List.head?_cons, Option.mem_some_iff, forall_eq', notLater]
    by_cases same : last.time = time
    · simp [same]
    · by_cases before : time < last.time <;> simp [same, before]

theorem head?_addReport (added : addReport time report ticks = .ok next) :
    next.head?.map Tick.time = some time := by
  rcases addReport_cases added with ⟨last, earlier, rfl, rfl, rfl⟩ | ⟨-, rfl⟩ <;> rfl

theorem addRecord_some (read : record.report = .ok report) (ticks : List Tick) :
    addRecord ticks (some record) = (addReport record.time report ticks).mapError .record := by
  simp [addRecord, read, bind, Except.bind]

theorem addRecord_ok_iff (read : record.report = .ok report) :
    addRecord ticks (some record) = .ok next ↔ addReport record.time report ticks = .ok next := by
  rw [addRecord_some read]
  cases addReport record.time report ticks <;> simp [Except.mapError]

def Follows (ticks : List Tick) (log : List Sighting) : Prop :=
  (∀ last ∈ ticks.head?, ∀ s ∈ log, last.time ≤ s.time) ∧ (log.map Sighting.time).Pairwise (· ≤ ·)

theorem follows_cons_iff {s : Sighting} {log : List Sighting}
    (added : addReport s.time report ticks = .ok next) : Follows ticks (s :: log) ↔ Follows next log := by
  have now := head?_addReport added
  have before := addReport_ok_iff.mp ⟨next, added⟩
  obtain ⟨last, head, same⟩ := Option.map_eq_some_iff.mp now
  simp only [Follows, List.map_cons, List.pairwise_cons, List.forall_mem_map, head, Option.mem_some_iff,
    forall_eq', same, List.forall_mem_cons]
  constructor
  · intro follows
    exact follows.2
  · intro follows
    refine ⟨fun last head => ⟨before last head, fun s member => ?_⟩, follows⟩
    exact Int.le_trans (before last head) (follows.1 s member)

theorem foldlM_addRecord_ok_iff :
    (∃ next, records.foldlM addRecord ticks = .ok next) ↔
      (∀ row ∈ records, ∃ record report, row = some record ∧ record.report = .ok report) ∧
      Follows ticks (logged records) := by
  -- Induction on the rows that are left, for whatever ticks those before them made.
  induction records generalizing ticks with
  | nil => simp [Follows, logged, pure, Except.pure]
  | cons row rest ih =>
    rw [List.foldlM_cons]
    constructor
    · intro accepted
      obtain ⟨next, read⟩ := accepted
      obtain ⟨middle, first, remaining⟩ := bind_eq_ok_iff.mp read
      obtain ⟨record, report, rfl, reported, added⟩ := addRecord_eq_ok first
      obtain ⟨readable, follows⟩ := ih.mp ⟨next, remaining⟩
      rw [logged_cons reported]
      exact ⟨List.forall_mem_cons.mpr ⟨⟨record, report, rfl, reported⟩, readable⟩,
        (follows_cons_iff added).mpr follows⟩
    · intro accepted
      obtain ⟨readable, follows⟩ := accepted
      obtain ⟨⟨record, report, rfl, reported⟩, others⟩ := List.forall_mem_cons.mp readable
      rw [logged_cons reported] at follows
      obtain ⟨middle, added⟩ := addReport_ok_iff.mpr fun last head =>
        follows.1 last head _ List.mem_cons_self
      have first := (addRecord_ok_iff reported).mpr added
      obtain ⟨next, remaining⟩ := ih.mpr ⟨others, (follows_cons_iff added).mp follows⟩
      exact ⟨next, bind_eq_ok_iff.mpr ⟨middle, first, remaining⟩⟩

/-- A log is accepted just when each of its rows can be read and no time is before an earlier one. -/
theorem ticksOf_ok_iff :
    (∃ ticks, ticksOf records = .ok ticks) ↔
      (∀ row ∈ records, ∃ record report, row = some record ∧ record.report = .ok report) ∧
      ((logged records).map Sighting.time).Pairwise (· ≤ ·) := by
  have mapped : (∃ ticks, ticksOf records = .ok ticks) ↔
      ∃ next, records.foldlM addRecord [] = .ok next := by
    unfold ticksOf
    cases records.foldlM addRecord [] <;> simp [Except.map]
  rw [mapped, foldlM_addRecord_ok_iff]
  simp [Follows]

end Thermals.Log
