import Thermals.Replay
import Thermals.Proofs.Detection.Isolation
import Thermals.Proofs.Log.Feeding
import Thermals.Proofs.Log.Reordering

namespace Thermals

open Time Traffic Detection

namespace Detection.Detector

theorem advance_congr {tick other : Tick} (same : tick.SameReports other) (d : Detector) :
    d.advance other = d.advance tick := by
  rw [advance, advance, same.time, foldl_update_perm tick.roster.nodup same.reports]

end Detection.Detector

namespace Replay

theorem lines_congr {ticks others : List Tick} (same : List.Forall₂ Tick.SameReports ticks others)
    (json : Bool) (config : Config) : lines json config others = lines json config ticks := by
  unfold lines
  generalize Detector.start config = d
  induction same generalizing d with
  | nil => rfl
  | cons first _ ih =>
    rw [Detector.shown, Detector.shown, List.flatMap_cons, List.flatMap_cons,
      Detector.advance_congr first, ih]
    simp only [first.time]

theorem run_congr {text other : List UInt8} {ticks others : List Tick}
    (read : Log.ticks text = .ok ticks) (other_read : Log.ticks other = .ok others)
    (same : List.Forall₂ Tick.SameReports ticks others) (config : Option (Option String))
    (maxAge : Option Span) (json : Bool) :
    run { config, maxAge, log := some other, json } = run { config, maxAge, log := some text, json } := by
  simp only [run, fileContent, bind, Except.bind, read, other_read, lines_congr same]

/-- The order of the records of a time does not matter to a replay, as long as those of each target
stay in theirs. -/
theorem run_of_reordered {text other : List UInt8} {ticks : List Tick}
    (read : Log.ticks text = .ok ticks)
    (reordered : Log.Reordered (Log.records text) (Log.records other)) :
    ∃ others, Log.ticks other = .ok others ∧ List.Forall₂ Tick.SameReports ticks others ∧
      ∀ config maxAge json, run { config, maxAge, log := some other, json } =
        run { config, maxAge, log := some text, json } := by
  obtain ⟨others, other_read, same⟩ := Log.ticksOf_of_reordered read reordered
  exact ⟨others, other_read, same, run_congr read other_read same⟩

/-- Two records of one target at one time, with the record of another one put between them, and 45
seconds later both targets still turn. -/
theorem run_of_swapped_records :
    let log (first : String) : List UInt8 :=
      ("time,id,lat,lon,turn_rate,climb_rate\n" ++ first ++ "0,dd8f12,0.0,8.5,20,0.5\n" ++
        "45000,DD8F12,0.0,8.5,20,0.5\n45000,3F0001,0.0,8.5,20,0.5\n").toUTF8.toList
    let text := log "0,3F0001,0.0,8.5,20,0.5\n0,DD8F12,0.0,8.5,3,0.5\n"
    let other := log "0,DD8F12,0.0,8.5,3,0.5\n0,3F0001,0.0,8.5,20,0.5\n"
    let shown (id : String) := "1970-01-01T00:00:45.000Z TrafficThermal( id: " ++ id ++
      ", state: circling, center: [8.500000,0.000000], climb: 0.50m/s (1 samples), " ++
      "updated: 1970-01-01T00:00:45.000Z)"
    Log.Reordered (Log.records text) (Log.records other) ∧
      ∃ ticks others, Log.ticks text = .ok ticks ∧ Log.ticks other = .ok others ∧ ticks ≠ others ∧
        List.Forall₂ Tick.SameReports ticks others ∧
        (∀ config maxAge json, run { config, maxAge, log := some other, json } =
          run { config, maxAge, log := some text, json }) ∧
        run { log := some other } = .ok [shown "3F0001", shown "DD8F12"] := by
  intro log text other shown
  let later := [some (Log.turned 45 "DD8F12" 20.0), some (Log.turned 45 "3F0001" 20.0)]
  have first : Log.records text = some (Log.turned 0 "3F0001" 20.0) ::
      some (Log.turned 0 "DD8F12" 3.0) :: some (Log.turned 0 "dd8f12" 20.0) :: later := by
    decide +kernel
  have second : Log.records other = some (Log.turned 0 "DD8F12" 3.0) ::
      some (Log.turned 0 "3F0001" 20.0) :: some (Log.turned 0 "dd8f12" 20.0) :: later := by
    decide +kernel
  have apart (id : FlarmId) (one : Log.tells id (some (Log.turned 0 "3F0001" 20.0)) = true) :
      Log.tells id (some (Log.turned 0 "DD8F12" 3.0)) = false := by
    have parsed : (FlarmId.parse "3F0001").toOption = some Flight.other := by decide +kernel
    have other_parsed : (FlarmId.parse "DD8F12").toOption = some Flight.target := by decide +kernel
    simp only [Log.tells, Log.turned, Option.any_some, parsed, other_parsed, decide_eq_true_eq] at one ⊢
    obtain rfl := Option.some.inj one
    decide
  have reordered : Log.Reordered (Log.records text) (Log.records other) := by
    rw [first, second]
    exact Log.Reordered.swap apart rfl [] _
  let turns (id : FlarmId) := Flight.sighted id 20.0 0.5
  let last := Flight.tick 45 [turns Flight.target, turns Flight.other]
  have read : Log.ticks text = .ok [Flight.tick 0 [turns Flight.other, turns Flight.target], last] := by
    rw [Log.ticks, first]
    decide +kernel
  have other_read : Log.ticks other =
      .ok [Flight.tick 0 [turns Flight.target, turns Flight.other], last] := by
    rw [Log.ticks, second]
    decide +kernel
  obtain ⟨others, found, same, alike⟩ := run_of_reordered read reordered
  have printed : run { log := some text } = .ok [shown "3F0001", shown "DD8F12"] := by
    simp only [run, fileContent, bind, Except.bind, read]
    decide +kernel
  refine ⟨reordered, _, others, read, found, ?_, same, alike, (alike none none false).trans printed⟩
  rw [← Except.ok.inj (other_read.symm.trans found)]
  decide +kernel

end Replay
end Thermals
