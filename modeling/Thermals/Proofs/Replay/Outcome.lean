import Thermals.Replay.Screen
import Thermals.Proofs.Log.Feeding
import Thermals.Proofs.Replay.Showing

namespace Thermals.Replay

open Time Traffic Detection

/-- How a replay ends. It dies for want of memory, if at all, in the first tick. -/
inductive Outcome where
  | unfit (fault : Fault)
  | unread (config : Config) (fault : Fault)
  | died (config : Config) (first : Tick) (status : UInt32)
  | replayed (config : Config) (shown : List (Tick × List Track)) (tracked : Nat)

namespace Outcome

def status : Outcome → UInt32
  | unfit _ | unread _ _ => 1
  | died _ _ status => status
  | replayed _ _ _ => 0

def complaints : Outcome → List Complaint
  | unfit fault | unread _ fault => [.fault fault]
  | died _ _ _ | replayed _ _ _ => []

def thermals : Outcome → List (Instant × Track)
  | unfit _ | unread _ _ | died _ _ _ => []
  | replayed _ shown _ => shown.flatMap fun (tick, tracks) => tracks.map (Prod.mk tick.time)

theorem thermals_of_failed (outcome : Outcome) (failed : outcome.status ≠ 0) :
    outcome.thermals = [] := by
  cases outcome with
  | unfit fault => rfl
  | unread config fault => rfl
  | died config first status => rfl
  | replayed config shown tracked => exact absurd rfl failed

end Outcome

namespace Host

variable (host : Host)

/-- The lines of the log on all that is done in a tick before thermals are shown. -/
def details (tick : Tick) : List String :=
  tick.roster.reports.flatMap (fun report => host.journal (.receiving tick.time report) ++
    host.journal (.received tick.time report)) ++ host.journal (.swept tick.time)

def output (log : String) (json : Bool) : Outcome → List String
  | .unfit _ => []
  | .unread config _ => host.journal (.replaying log config)
  | .died config first _ => host.journal (.replaying log config) ++
      first.roster.reports.head?.toList.flatMap fun report =>
        host.journal (.receiving first.time report)
  | .replayed config shown tracked => host.journal (.replaying log config) ++
      shown.flatMap (fun (tick, tracks) => host.details tick ++ tracks.map (line json tick.time)) ++
      host.journal (.ended tracked)

/-- No line of the log goes to the output. -/
def Quiet : Prop := ∀ note, host.journal note = []

theorem Quiet.output_eq {host : Host} (quiet : host.Quiet) (log : String) (json : Bool)
    (outcome : Outcome) :
    host.output log json outcome = outcome.thermals.map fun e => line json e.1 e.2 := by
  cases outcome with
  | unfit fault => rfl
  | unread config fault => exact quiet _
  | died config first status => simp [output, quiet _, Outcome.thermals]
  | replayed config shown tracked =>
    have silent (tick : Tick) : host.details tick = [] := by simp [details, quiet _]
    simp [output, quiet _, silent, Outcome.thermals, List.map_flatMap, Function.comp_def]

def textOf (file : Option String) : Option (Option String) :=
  file.map fun path => (host.file? path).bind String.fromUTF8?

def ticksIn (path : String) : Except Fault (List Tick) := do
  Log.ticks (← fileContent (host.file? path)).toList

/-- The stages of a replay: each one but the first starts when the one before it is through. -/
inductive Ends (arguments : Arguments) : Outcome → Prop where
  | unfitSettings {fault : Fault}
      (unfit : baseConfig (host.textOf arguments.config) = .error fault) :
      Ends arguments (.unfit fault)
  | unfitAge {config : Config} {age : Span} {fault : ConfigFault}
      (loaded : baseConfig (host.textOf arguments.config) = .ok config)
      (given : arguments.maxAge = some age)
      (unfit : config.withMaxRecentlyStoppedAge age = .error fault) :
      Ends arguments (.unfit (.config fault))
  | unreadLog {config : Config} {fault : Fault}
      (ready : settings (host.textOf arguments.config) arguments.maxAge = .ok config)
      (unread : host.ticksIn arguments.log = .error fault) : Ends arguments (.unread config fault)
  | died {config : Config} {first : Tick} {later : List Tick} {status : UInt32}
      (ready : settings (host.textOf arguments.config) arguments.maxAge = .ok config)
      (read : host.ticksIn arguments.log = .ok (first :: later))
      (unheld : host.dies? (room config) = some status) :
      Ends arguments (.died config first status)
  | replayed {config : Config} {ticks : List Tick} {shown : List (Tick × List Track)}
      (ready : settings (host.textOf arguments.config) arguments.maxAge = .ok config)
      (read : host.ticksIn arguments.log = .ok ticks)
      (held : ticks ≠ [] → host.dies? (room config) = none)
      (shows : Shows config shown) (each : shown.map Prod.fst = ticks) :
      Ends arguments (.replayed config shown (Detector.run config ticks).table.size)

def outcome (arguments : Arguments) : Outcome :=
  match settings (host.textOf arguments.config) arguments.maxAge with
  | .error fault => .unfit fault
  | .ok config =>
    match host.ticksIn arguments.log with
    | .error fault => .unread config fault
    | .ok ticks =>
      match ticks, host.dies? (room config) with
      | first :: _, some status => .died config first status
      | _, _ => .replayed config (shownTracks config ticks) (Detector.run config ticks).table.size

end Host

section Stages

variable {host : Host} {arguments : Arguments}

theorem gathers_of_ticksIn {path : String} {ticks : List Tick}
    (read : host.ticksIn path = .ok ticks) : ∃ bytes, Log.Gathers (Log.records bytes) ticks := by
  obtain ⟨bytes, -, read⟩ := Log.bind_eq_ok_iff.mp read
  exact ⟨_, Log.gathers_of_ticksOf read⟩

theorem reported_of_ticksIn {path : String} {ticks : List Tick}
    (read : host.ticksIn path = .ok ticks) : ∀ tick ∈ ticks, tick.roster.reports ≠ [] := by
  intro tick member silent
  obtain ⟨bytes, gathers⟩ := gathers_of_ticksIn read
  obtain ⟨record, listed, now⟩ := (gathers.times tick.time).mp (List.mem_map_of_mem member)
  obtain ⟨_, report, same, readable⟩ := gathers.readable _ listed
  obtain rfl := Option.some.inj same
  have heard := (gathers.heard tick member report.id).mpr
    ⟨record, listed, now, Log.id_of_report readable⟩
  rw [silent] at heard
  cases heard

theorem settings_eq_error_iff {file : Option (Option String)} {maxAge : Option Span} {fault : Fault} :
    settings file maxAge = .error fault ↔ baseConfig file = .error fault ∨
      ∃ config age other, baseConfig file = .ok config ∧ maxAge = some age ∧
        config.withMaxRecentlyStoppedAge age = .error other ∧ fault = .config other := by
  unfold settings
  cases baseConfig file with
  | error other => simp [bind, Except.bind]
  | ok config =>
    cases maxAge with
    | none => simp [bind, Except.bind, pure, Except.pure]
    | some age =>
      cases adjusted : config.withMaxRecentlyStoppedAge age <;>
        simp [adjusted, bind, Except.bind, Except.mapError, eq_comm]

section Outcome

variable {config : Config} {fault : Fault}

theorem outcome_eq_unfit
    (unfit : settings (host.textOf arguments.config) arguments.maxAge = .error fault) :
    host.outcome arguments = .unfit fault := by
  simp only [Host.outcome, unfit]

variable (ready : settings (host.textOf arguments.config) arguments.maxAge = .ok config)
include ready

theorem outcome_eq_unread (unread : host.ticksIn arguments.log = .error fault) :
    host.outcome arguments = .unread config fault := by
  simp only [Host.outcome, ready, unread]

theorem outcome_eq_died {first : Tick} {later : List Tick} {status : UInt32}
    (read : host.ticksIn arguments.log = .ok (first :: later))
    (unheld : host.dies? (room config) = some status) :
    host.outcome arguments = .died config first status := by
  simp only [Host.outcome, ready, read, unheld]

theorem outcome_eq_replayed {ticks : List Tick} (read : host.ticksIn arguments.log = .ok ticks)
    (held : ticks ≠ [] → host.dies? (room config) = none) :
    host.outcome arguments =
      .replayed config (shownTracks config ticks) (Detector.run config ticks).table.size := by
  simp only [Host.outcome, ready, read]
  cases ticks with
  | nil => rfl
  | cons first later => rw [held (List.cons_ne_nil first later)]

end Outcome

theorem ends_iff {other : Outcome} : host.Ends arguments other ↔ other = host.outcome arguments := by
  constructor
  · intro ends
    cases ends with
    | unfitSettings unfit => rw [outcome_eq_unfit (settings_eq_error_iff.mpr (Or.inl unfit))]
    | unfitAge loaded given unfit =>
      have unfit := settings_eq_error_iff.mpr (Or.inr ⟨_, _, _, loaded, given, unfit, rfl⟩)
      rw [outcome_eq_unfit unfit]
    | unreadLog ready unread => rw [outcome_eq_unread ready unread]
    | died ready read unheld => rw [outcome_eq_died ready read unheld]
    | replayed ready read held shows each =>
      obtain ⟨bytes, gathers⟩ := gathers_of_ticksIn read
      rw [outcome_eq_replayed ready read held,
        shows.unique (shows_shownTracks _ gathers.rising) (by rw [each, map_fst_shownTracks])]
  · intro same
    subst same
    cases ready : settings (host.textOf arguments.config) arguments.maxAge with
    | error fault =>
      rw [outcome_eq_unfit ready]
      rcases settings_eq_error_iff.mp ready with unfit | ⟨config, age, fault, loaded, given, unfit, rfl⟩
      · exact .unfitSettings unfit
      · exact .unfitAge loaded given unfit
    | ok config =>
      cases read : host.ticksIn arguments.log with
      | error fault =>
        rw [outcome_eq_unread ready read]
        exact .unreadLog ready read
      | ok ticks =>
        obtain ⟨bytes, gathers⟩ := gathers_of_ticksIn read
        have replayed (held : ticks ≠ [] → host.dies? (room config) = none) :
            host.Ends arguments (host.outcome arguments) := by
          rw [outcome_eq_replayed ready read held]
          exact .replayed ready read held (shows_shownTracks config gathers.rising)
            (map_fst_shownTracks config ticks)
        cases held : host.dies? (room config) with
        | none => exact replayed fun _ => held
        | some status =>
          cases ticks with
          | nil => exact replayed (absurd rfl)
          | cons first later =>
            rw [outcome_eq_died ready read held]
            exact .died ready read held

end Stages

end Thermals.Replay
