import Thermals.Proofs.Detection.Evidence
import Thermals.Proofs.Detection.Upkeep

namespace Thermals.Detection

open Time Traffic

namespace Track

def Dormant (t : Track) : Prop := t.phase = .idle ∨ t.phase = .recentlyStopped

theorem dormant_or_mayCircle (t : Track) : t.Dormant ∨ t.mayCircle = true :=
  t.dormant_or_circling.imp_right mayCircle_iff.mpr

/-- What two detectors hold on a target: the same, or nothing that circles on either side. -/
inductive Indistinct : Option Track → Option Track → Prop
  | same (held : Option Track) : Indistinct held held
  | dormant {held other : Option Track} (rests : ∀ t, held = some t → t.Dormant)
      (other_rests : ∀ t, other = some t → t.Dormant) : Indistinct held other

theorem dormant_prior {config : Config} {id : FlarmId} {held : Option Track}
    (rests : ∀ t, held = some t → t.Dormant) : (prior config id held).Dormant := by
  cases held with
  | none => exact Or.inl rfl
  | some t => exact rests t rfl

theorem dormant_observe {config : Config} {now : Instant} {report : Report} {t : Track}
    (rests : t.Dormant) (straight : turns config report = false) :
    (t.observe config now report).Dormant := by
  rw [observe_dormant rests straight]
  exact rests

theorem capacity_eq_of_held {config : Config} {id : FlarmId} {held : Option Track}
    (fits : ∀ t, held = some t → t.Fits config.positionHistorySize id) :
    (prior config id held).history.capacity = max config.positionHistorySize 1 := by
  cases held with
  | none => rfl
  | some t => exact (fits t rfl).capacity

namespace Indistinct

variable {config : Config} {id : FlarmId} {held other : Option Track}

theorem circling_or_dormant (indistinct : Indistinct held other) :
    (∃ t, t.mayCircle = true ∧ held = some t ∧ other = some t) ∨
      (∀ t, held = some t → t.Dormant) ∧ ∀ t, other = some t → t.Dormant := by
  cases indistinct with
  | dormant rests other_rests => exact Or.inr ⟨rests, other_rests⟩
  | same =>
    cases held with
    | none => exact Or.inr ⟨by simp, by simp⟩
    | some t =>
      rcases t.dormant_or_mayCircle with rests | circling
      · exact Or.inr ⟨by simp [rests], by simp [rests]⟩
      · exact Or.inl ⟨t, circling, rfl, rfl⟩

theorem eq_of_turning (indistinct : Indistinct held other)
    (fits : ∀ t, held = some t → t.Fits config.positionHistorySize id)
    (other_fits : ∀ t, other = some t → t.Fits config.positionHistorySize id) {report : Report}
    (turning : turns config report = true) (now : Instant) :
    (prior config id other).observe config now report =
      (prior config id held).observe config now report := by
  cases indistinct with
  | same => rfl
  | dormant rests other_rests =>
    apply observe_restarts (dormant_prior other_rests) (dormant_prior rests) turning rfl
    rw [capacity_eq_of_held fits, capacity_eq_of_held other_fits]

theorem observe (indistinct : Indistinct held other)
    (fits : ∀ t, held = some t → t.Fits config.positionHistorySize id)
    (other_fits : ∀ t, other = some t → t.Fits config.positionHistorySize id) (now : Instant)
    (report : Report) :
    Indistinct (some ((prior config id held).observe config now report))
      (some ((prior config id other).observe config now report)) := by
  cases turning : turns config report with
  | true =>
    rw [indistinct.eq_of_turning fits other_fits turning]
    exact .same _
  | false =>
    cases indistinct with
    | same => exact .same _
    | dormant rests other_rests =>
      apply Indistinct.dormant
      · simp [dormant_observe (dormant_prior rests) turning]
      · simp [dormant_observe (dormant_prior other_rests) turning]

theorem filter (indistinct : Indistinct held other) (keep : Track → Bool) :
    Indistinct (held.filter keep) (other.filter keep) := by
  cases indistinct with
  | same => exact .same _
  | dormant rests other_rests =>
    apply Indistinct.dormant
    · intro t kept
      exact rests t (Option.filter_eq_some_iff.mp kept).1
    · intro t kept
      exact other_rests t (Option.filter_eq_some_iff.mp kept).1

theorem lose (indistinct : Indistinct held other) (gone : Bool) :
    Indistinct held (other.filter fun t => t.mayCircle || !gone) := by
  rcases indistinct.circling_or_dormant with ⟨t, circling, rfl, rfl⟩ | ⟨rests, other_rests⟩
  · rw [Option.filter_some, circling]
    exact .same _
  · apply Indistinct.dormant rests
    intro t kept
    exact other_rests t (Option.filter_eq_some_iff.mp kept).1

end Indistinct
end Track

def Table.evict (t : Table) (gone : FlarmId → Bool) : Table :=
  ⟨t.entries.filter fun e => e.2.mayCircle || !gone e.1, t.ascending.filter _⟩

theorem Table.get?_evict (t : Table) (gone : FlarmId → Bool) (id : FlarmId) :
    (t.evict gone).get? id = (t.get? id).filter fun track => track.mayCircle || !gone id := by
  ext track
  rw [Option.filter_eq_some_iff, get?_eq_some_iff, get?_eq_some_iff]
  exact List.mem_filter

theorem Table.Coherent.evict {historySize : Nat} {t : Table} (coherent : t.Coherent historySize)
    (gone : FlarmId → Bool) : (t.evict gone).Coherent historySize := by
  intro id track found
  rw [get?_evict, Option.filter_eq_some_iff] at found
  exact coherent id track found.1

namespace Detector

def evict (d : Detector) (gone : FlarmId → Bool) : Detector := { d with table := d.table.evict gone }

inductive Step where
  | perform (operation : Operation)
  | evict (gone : FlarmId → Bool)

def Step.take (d : Detector) : Step → Detector
  | perform operation => operation.perform d
  | evict gone => d.evict gone

def Step.operation? : Step → Option Operation
  | perform operation => some operation
  | evict _ => none

def SameCircling (d other : Detector) : Prop :=
  ∀ id, (∃ t : Track, t.mayCircle = true ∧ d.table.get? id = some t ∧ other.table.get? id = some t) ∨
    (∀ t, d.table.get? id = some t → t.Dormant) ∧ ∀ t, other.table.get? id = some t → t.Dormant

structure Indistinct (d other : Detector) : Prop where
  config : other.config = d.config
  coherent : d.table.Coherent d.config.positionHistorySize
  other_coherent : other.table.Coherent d.config.positionHistorySize
  held (id : FlarmId) : Track.Indistinct (d.table.get? id) (other.table.get? id)

theorem get?_perform_congr {d other : Detector} {id : FlarmId} (config : other.config = d.config)
    (same : other.table.get? id = d.table.get? id) (operation : Operation) :
    (operation.perform other).table.get? id = (operation.perform d).table.get? id := by
  cases operation with
  | update now report =>
    rw [Operation.perform, Operation.perform, get?_update, get?_update, config, same]
  | cleanup now =>
    rw [Operation.perform, Operation.perform, cleanup, cleanup, Table.get?_sweep, Table.get?_sweep,
      config, same]

theorem get?_foldl_perform_congr {d other : Detector} {id : FlarmId}
    (config : other.config = d.config) (same : other.table.get? id = d.table.get? id)
    (operations : List Operation) :
    (operations.foldl Operation.perform other).table.get? id =
      (operations.foldl Operation.perform d).table.get? id := by
  induction operations generalizing d other with
  | nil => exact same
  | cons operation rest ih =>
    apply ih
    · rw [config_perform, config_perform, config]
    · exact get?_perform_congr config same operation

namespace Indistinct

variable {d other : Detector}

theorem of_coherent (coherent : d.table.Coherent d.config.positionHistorySize) : Indistinct d d :=
  ⟨rfl, coherent, coherent, fun _ => .same _⟩

theorem sameCircling (indistinct : Indistinct d other) : SameCircling d other :=
  fun id => (indistinct.held id).circling_or_dormant

theorem evict (indistinct : Indistinct d other) (gone : FlarmId → Bool) :
    Indistinct d (other.evict gone) where
  config := indistinct.config
  coherent := indistinct.coherent
  other_coherent := indistinct.other_coherent.evict gone
  held id := by
    rw [Detector.evict, Table.get?_evict]
    exact (indistinct.held id).lose (gone id)

theorem perform (indistinct : Indistinct d other) (operation : Operation) :
    Indistinct (operation.perform d) (operation.perform other) where
  config := by rw [config_perform, config_perform, indistinct.config]
  coherent := coherent_perform indistinct.coherent operation
  other_coherent := by
    have coherent := indistinct.other_coherent
    rw [← indistinct.config] at coherent
    have kept := coherent_perform coherent operation
    rwa [config_perform, indistinct.config, ← config_perform d operation] at kept
  held id := by
    cases operation with
    | update now report =>
      rw [Operation.perform, Operation.perform, get?_update, get?_update, indistinct.config]
      split
      · apply (indistinct.held id).observe
        · exact fun t found => (indistinct.coherent id t found).1
        · exact fun t found => (indistinct.other_coherent id t found).1
      · exact indistinct.held id
    | cleanup now =>
      rw [Operation.perform, Operation.perform, cleanup, cleanup, Table.get?_sweep, Table.get?_sweep,
        indistinct.config]
      exact (indistinct.held id).filter _

theorem foldl_perform (indistinct : Indistinct d other) (operations : List Operation) :
    Indistinct (operations.foldl Operation.perform d) (operations.foldl Operation.perform other) := by
  induction operations generalizing d other with
  | nil => exact indistinct
  | cons operation rest ih => exact ih (indistinct.perform operation)

theorem foldl_take (indistinct : Indistinct d other) (steps : List Step) :
    Indistinct ((steps.filterMap Step.operation?).foldl Operation.perform d)
      (steps.foldl Step.take other) := by
  induction steps generalizing d other with
  | nil => exact indistinct
  | cons step rest ih =>
    cases step with
    | perform operation => exact ih (indistinct.perform operation)
    | evict gone => exact ih (indistinct.evict gone)

theorem get?_eq_of_turning (indistinct : Indistinct d other) {report : Report}
    (turning : turns d.config report = true) (now : Instant) (later : List Operation) :
    (later.foldl Operation.perform (other.update now report)).table.get? report.id =
      (later.foldl Operation.perform (d.update now report)).table.get? report.id := by
  apply get?_foldl_perform_congr
  · exact indistinct.config
  · rw [get?_update, get?_update, if_pos rfl, if_pos rfl, indistinct.config]
    apply congrArg some
    apply (indistinct.held report.id).eq_of_turning ?_ ?_ turning
    · exact fun t found => (indistinct.coherent report.id t found).1
    · exact fun t found => (indistinct.other_coherent report.id t found).1

end Indistinct

/-- Tracks of targets that do not circle can get lost at any time, and no detection is different for it. -/
theorem detects_without_dormant (config : Config) (before : List Operation) :
    let d := before.foldl Operation.perform (start config)
    (∀ (gone : FlarmId → Bool) (operations : List Operation),
      SameCircling (operations.foldl Operation.perform d)
        (operations.foldl Operation.perform (d.evict gone))) ∧
    (∀ (gone : FlarmId → Bool) earlier now report later, turns config report = true →
      let operations : List Operation := earlier ++ .update now report :: later
      (operations.foldl Operation.perform (d.evict gone)).table.get? report.id =
        (operations.foldl Operation.perform d).table.get? report.id) ∧
    ∀ steps : List Step,
      SameCircling ((steps.filterMap Step.operation?).foldl Operation.perform d)
        (steps.foldl Step.take d) := by
  intro d
  have same := Indistinct.of_coherent (coherent_foldl_perform config before)
  refine ⟨?_, ?_, ?_⟩
  · intro gone operations
    exact ((same.evict gone).foldl_perform operations).sameCircling
  · intro gone earlier now report later turning operations
    have met := (same.evict gone).foldl_perform earlier
    have settings : (earlier.foldl Operation.perform d).config = config := by
      rw [config_foldl_perform, config_foldl_perform]
      rfl
    rw [← settings] at turning
    rw [List.foldl_append, List.foldl_append]
    exact met.get?_eq_of_turning turning now later
  · intro steps
    exact (same.foldl_take steps).sameCircling

theorem second_thermal_after_eviction :
    let d := (operations Flight.opening).foldl Operation.perform (start Flight.settings)
    let gone (id : FlarmId) : Bool := id = Flight.target
    let report := Flight.sighted Flight.target 20.0 1.0
    let earlier := [Operation.update (.ofSeconds 5) (Flight.sighted Flight.target 3.0 1.0)]
    let later := operations Flight.turning
    let found := (earlier ++ .update (.ofSeconds 6) report :: later).foldl Operation.perform d
    (d.table.get? Flight.target).map Track.phase = some .recentlyStopped ∧
      (d.evict gone).table.get? Flight.target = none ∧ turns Flight.settings report = true ∧
      (found.table.get? Flight.target).map Track.phase = some .circling ∧
      ((earlier ++ .update (.ofSeconds 6) report :: later).foldl Operation.perform
        (d.evict gone)).table.get? Flight.target = found.table.get? Flight.target := by
  intro d gone report earlier later found
  have turning : turns Flight.settings report = true := by decide +kernel
  obtain ⟨-, same, -⟩ := detects_without_dormant Flight.settings (operations Flight.opening)
  exact ⟨by decide +kernel, by decide +kernel, turning, by decide +kernel,
    same gone earlier (.ofSeconds 6) report later turning⟩

end Detector
end Thermals.Detection
