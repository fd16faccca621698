import Mathlib.Data.List.Nodup
import Thermals.Proofs.Time.Elapsed
import Thermals.Proofs.Detection.Known
import Thermals.Proofs.Traffic.Roster

namespace Thermals.Detection

open Time Traffic

inductive Operation where
  | update (time : Instant) (report : Report)
  | cleanup (time : Instant)
  deriving DecidableEq

namespace Operation

def time : Operation → Instant
  | update time _ => time
  | cleanup time => time

def perform (d : Detector) : Operation → Detector
  | update time report => d.update time report
  | cleanup time => d.cleanup time

def updated? : Operation → Option (Instant × FlarmId)
  | update time report => some (time, report.id)
  | cleanup _ => none

def cleaned? : Operation → Option Instant
  | update _ _ => none
  | cleanup time => some time

/-- Times do not fall, and a cleanup is the last operation of its time. -/
def Precedes (a b : Operation) : Prop :=
  a.time ≤ b.time ∧ (a.cleaned?.isSome = true → a.time < b.time)

end Operation

open Operation

def operations (ticks : List Tick) : List Operation :=
  ticks.flatMap fun tick => tick.roster.reports.map (.update tick.time) ++ [.cleanup tick.time]

theorem operations_append (ticks others : List Tick) :
    operations (ticks ++ others) = operations ticks ++ operations others := List.flatMap_append

theorem operations_cons (tick : Tick) (rest : List Tick) :
    operations (tick :: rest) = operations [tick] ++ operations rest := operations_append [tick] rest

theorem updated_operations (ticks : List Tick) :
    (operations ticks).filterMap updated? =
      ticks.flatMap fun tick => tick.roster.reports.map fun report => (tick.time, report.id) := by
  induction ticks with
  | nil => rfl
  | cons tick rest ih =>
    have first : (operations [tick]).filterMap updated? =
        tick.roster.reports.map fun report => (tick.time, report.id) := by
      simp [operations, updated?, Function.comp_def]
    rw [operations_cons, List.filterMap_append, ih, first, List.flatMap_cons]

theorem mem_updated_operations {ticks : List Tick} {time : Instant} {id : FlarmId} :
    (time, id) ∈ (operations ticks).filterMap updated? ↔
      ∃ tick ∈ ticks, tick.time = time ∧ ∃ report ∈ tick.roster.reports, report.id = id := by
  simp only [updated_operations, List.mem_flatMap, List.mem_map, Prod.mk.injEq]
  constructor
  · intro updated
    obtain ⟨tick, member, report, listed, now, own⟩ := updated
    exact ⟨tick, member, now, report, listed, own⟩
  · intro heard
    obtain ⟨tick, member, now, report, listed, own⟩ := heard
    exact ⟨tick, member, report, listed, now, own⟩

theorem cleaned_operations (ticks : List Tick) :
    (operations ticks).filterMap cleaned? = ticks.map Tick.time := by
  induction ticks with
  | nil => rfl
  | cons tick rest ih =>
    have first : (operations [tick]).filterMap cleaned? = [tick.time] := by
      simp [operations, cleaned?, Function.comp_def]
    rw [operations_cons, List.filterMap_append, ih, first]
    rfl

theorem mem_operations {ticks : List Tick} {operation : Operation} :
    operation ∈ operations ticks ↔ ∃ tick ∈ ticks, operation ∈ operations [tick] := by
  simp only [operations, List.mem_flatMap, List.flatMap_singleton]

theorem time_of_mem_operations {tick : Tick} {operation : Operation}
    (member : operation ∈ operations [tick]) : operation.time = tick.time := by
  rw [operations, List.flatMap_singleton, List.mem_append, List.mem_map, List.mem_singleton] at member
  rcases member with ⟨report, -, rfl⟩ | rfl <;> rfl

theorem precedes_operations_tick (tick : Tick) : (operations [tick]).Pairwise Precedes := by
  rw [operations, List.flatMap_singleton, List.pairwise_append]
  refine ⟨?_, List.pairwise_singleton _ _, ?_⟩
  · rw [List.pairwise_map]
    apply List.pairwise_of_forall
    intro report other
    exact ⟨Int.le_refl _, fun cleaned => absurd cleaned Bool.false_ne_true⟩
  · intro update updated cleanup cleaned
    obtain ⟨report, -, rfl⟩ := List.mem_map.mp updated
    obtain rfl := List.mem_singleton.mp cleaned
    exact ⟨Int.le_refl _, fun cleaned => absurd cleaned Bool.false_ne_true⟩

theorem precedes_operations {ticks : List Tick} (rising : (ticks.map Tick.time).Pairwise (· < ·)) :
    (operations ticks).Pairwise Precedes := by
  induction ticks with
  | nil => exact List.Pairwise.nil
  | cons tick rest ih =>
    obtain ⟨first, rising⟩ := List.pairwise_cons.mp rising
    rw [operations_cons, List.pairwise_append]
    refine ⟨precedes_operations_tick tick, ih rising, ?_⟩
    intro a before b after
    obtain ⟨later, member, here⟩ := mem_operations.mp after
    have less : a.time < b.time := by
      rw [time_of_mem_operations before, time_of_mem_operations here]
      exact first _ (List.mem_map_of_mem member)
    exact ⟨Int.le_of_lt less, fun _ => less⟩

theorem nodup_updated_operations {ticks : List Tick}
    (rising : (ticks.map Tick.time).Pairwise (· < ·)) :
    ((operations ticks).filterMap updated?).Nodup := by
  rw [updated_operations, List.nodup_flatMap]
  constructor
  · intro tick _
    have once := tick.roster.nodup
    apply List.Nodup.of_map Prod.snd
    rwa [List.map_map]
  · rw [List.pairwise_map] at rising
    apply rising.imp
    intro tick later less pair here there
    obtain ⟨report, -, rfl⟩ := List.mem_map.mp here
    obtain ⟨other, -, same⟩ := List.mem_map.mp there
    exact Instant.ne_of_lt less (congrArg Prod.fst same).symm

namespace Detector

theorem foldl_perform_tick (d : Detector) (tick : Tick) :
    (operations [tick]).foldl perform d = d.advance tick := by
  rw [operations, List.flatMap_singleton, List.foldl_append, List.foldl_map]
  rfl

theorem foldl_perform (d : Detector) (ticks : List Tick) :
    (operations ticks).foldl perform d = ticks.foldl advance d := by
  induction ticks generalizing d with
  | nil => rfl
  | cons tick rest ih =>
    rw [operations_cons, List.foldl_append, foldl_perform_tick, ih, List.foldl_cons]

theorem getElem?_shown (d : Detector) (ticks : List Tick) (n : Nat) :
    (d.shown ticks)[n]? = ticks[n]?.map fun tick =>
      (tick, ((operations (ticks.take (n + 1))).foldl perform d).relevant tick.time) := by
  induction ticks generalizing d n with
  | nil => rfl
  | cons tick rest ih =>
    cases n with
    | zero => simp [shown, foldl_perform_tick]
    | succ n =>
      rw [shown, List.getElem?_cons_succ, ih, List.getElem?_cons_succ, List.take_succ_cons,
        operations_cons, List.foldl_append, foldl_perform_tick]

end Detector

theorem Track.samples_observe (config : Config) (now : Instant) (report : Report) (t : Track) :
    (t.observe config now report).climb.samples ≤ t.climb.samples + 1 := by
  have counted : (t.climb.addKnown report.climbRate).samples ≤ t.climb.samples + 1 := by
    rw [Climb.samples_addKnown]
    cases report.climbRate <;> simp
  generalize step : t.observe config now report = next
  cases reaction step with
  | begins => exact Nat.zero_le _
  | rests => exact Nat.le_succ _
  | waits => exact Nat.le_succ _
  | confirms => exact counted
  | fails => exact Nat.zero_le _
  | continues => exact counted
  | stops => exact Nat.le_succ _

theorem Detector.samples_known (config : Config) (ticks : List Tick) (id : FlarmId) :
    (known config ticks id).climb.samples ≤
      ((operations ticks).filterMap updated?).countP fun e => e.2 = id := by
  induction ticks using List.reverseRecOn with
  | nil => exact Nat.le_refl _
  | append_singleton ticks tick ih =>
    have kept (t : Track) : (t.swept config tick.time).climb.samples ≤ t.climb.samples := by
      unfold Track.swept
      split
      · exact Nat.zero_le _
      · exact Nat.le_refl _
    rw [known_append_singleton, operations_append, List.filterMap_append, List.countP_append]
    apply Nat.le_trans (kept _)
    cases found : tick.roster.find? id with
    | none => exact Nat.le_add_right_of_le ih
    | some report =>
      have step := (known config ticks id).samples_observe config tick.time report
      have heard : 0 < ((operations [tick]).filterMap updated?).countP fun e => e.2 = id := by
        obtain ⟨member, same⟩ := (tick.roster.find?_eq_some_iff id report).mp found
        rw [List.countP_pos_iff]
        exact ⟨(tick.time, id), mem_updated_operations.mpr ⟨tick, List.mem_singleton_self _, rfl,
          report, member, same⟩, decide_eq_true rfl⟩
      have counted : ((known config ticks id).heard config tick.time (some report)).climb.samples ≤
        (known config ticks id).climb.samples + 1 := step
      omega

end Thermals.Detection
