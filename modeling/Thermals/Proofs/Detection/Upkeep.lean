import Thermals.Proofs.Detection.Coherence
import Thermals.Proofs.Detection.Known
import Thermals.Proofs.Detection.Operations

namespace Thermals.Detection

open Time Traffic

/-- Every entry is under the id of its target, has room for as many positions as it should, and is
coherent. -/
def Table.Coherent (historySize : Nat) (t : Table) : Prop :=
  ∀ id track, t.get? id = some track → track.Fits historySize id ∧ track.Coherent

/-- What can be done to a table by itself. The settings can be others each time, and a report can be
one of another target than that of the entry which takes it in. -/
inductive Table.Action where
  | upsert (id : FlarmId)
  | observe (config : Config) (now : Instant) (id : FlarmId) (report : Report)
  | sweep (now : Instant) (maxAge : Span)

namespace Table

def act (historySize : Nat) (t : Table) : Action → Table
  | .upsert id => t.put id (t.track historySize id)
  | .observe config now id report => t.observe historySize config now id report
  | .sweep now maxAge => t.sweep now maxAge

variable {historySize : Nat} {t : Table} {id : FlarmId}

theorem coherent_empty (historySize : Nat) : empty.Coherent historySize := by
  intro id track found
  cases found

theorem Coherent.track (coherent : t.Coherent historySize) (id : FlarmId) :
    (t.track historySize id).Fits historySize id ∧ (t.track historySize id).Coherent := by
  unfold Table.track
  cases found : t.get? id with
  | none => exact ⟨⟨rfl, rfl⟩, Track.coherent_fresh id historySize⟩
  | some track => exact coherent id track found

theorem Coherent.put {track : Track} (coherent : t.Coherent historySize)
    (fits : track.Fits historySize id) (sound : track.Coherent) :
    (t.put id track).Coherent historySize := by
  intro key held found
  rw [get?_put] at found
  split at found
  · rename_i same
    obtain rfl := Option.some.inj found
    rw [same]
    exact ⟨fits, sound⟩
  · exact coherent key held found

theorem Coherent.observe (coherent : t.Coherent historySize) (config : Config) (now : Instant)
    (id : FlarmId) (report : Report) :
    (t.observe historySize config now id report).Coherent historySize := by
  obtain ⟨fits, sound⟩ := coherent.track id
  exact coherent.put (fits.heard (some report)) sound.observe

theorem Coherent.filter (coherent : t.Coherent historySize) (keep : Track → Bool) :
    (t.filter keep).Coherent historySize := by
  intro id track found
  rw [get?_filter, Option.filter_eq_some_iff] at found
  exact coherent id track found.1

theorem Coherent.act (coherent : t.Coherent historySize) (action : Action) :
    (t.act historySize action).Coherent historySize := by
  cases action with
  | upsert id =>
    obtain ⟨fits, sound⟩ := coherent.track id
    exact coherent.put fits sound
  | observe config now id report => exact coherent.observe config now id report
  | sweep now maxAge => exact coherent.filter _

end Table

namespace Detector

theorem table_update {d : Detector} (coherent : d.table.Coherent d.config.positionHistorySize)
    (now : Instant) (report : Report) :
    (d.update now report).table =
      d.table.observe d.config.positionHistorySize d.config now report.id report := by
  have own : { d.track report.id with id := report.id } = d.track report.id :=
    Track.ext (coherent.track report.id).1.id.symm rfl rfl rfl rfl rfl rfl
  simp only [update, own]
  rfl

theorem config_perform (d : Detector) (operation : Operation) :
    (operation.perform d).config = d.config := by
  cases operation <;> rfl

theorem coherent_perform {d : Detector} (coherent : d.table.Coherent d.config.positionHistorySize)
    (operation : Operation) :
    (operation.perform d).table.Coherent (operation.perform d).config.positionHistorySize := by
  rw [config_perform]
  cases operation with
  | update now report =>
    rw [Operation.perform, table_update coherent]
    exact coherent.observe d.config now report.id report
  | cleanup now => exact coherent.filter _

theorem coherent_foldl_perform (config : Config) (operations : List Operation) :
    let d := operations.foldl Operation.perform (start config)
    d.table.Coherent d.config.positionHistorySize := by
  apply List.foldlRecOn (motive := fun d => d.table.Coherent d.config.positionHistorySize) operations
    Operation.perform (Table.coherent_empty _)
  intro d coherent operation _
  exact coherent_perform coherent operation

theorem config_foldl_perform (operations : List Operation) (d : Detector) :
    (operations.foldl Operation.perform d).config = d.config := by
  induction operations generalizing d with
  | nil => rfl
  | cons operation rest ih => rw [List.foldl_cons, ih, config_perform]

/-- Whatever is done to a detector, or to a table by itself, leaves it coherent. -/
theorem coherent_of_operations :
    (∀ config (operations : List Operation),
      let d := operations.foldl Operation.perform (start config)
      d.config = config ∧ d.table.Coherent config.positionHistorySize) ∧
    ∀ historySize (actions : List Table.Action),
      (actions.foldl (Table.act historySize) .empty).Coherent historySize := by
  constructor
  · intro config operations
    have settings := config_foldl_perform operations (start config)
    have coherent := coherent_foldl_perform config operations
    dsimp only at coherent
    rw [settings] at coherent
    exact ⟨settings, coherent⟩
  · intro historySize actions
    apply List.foldlRecOn (motive := Table.Coherent historySize) actions (Table.act historySize)
      (Table.coherent_empty historySize)
    intro t coherent action _
    exact coherent.act action

end Detector
end Thermals.Detection
