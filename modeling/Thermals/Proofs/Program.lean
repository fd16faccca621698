import Thermals.Proofs.Line
import Thermals.Proofs.Replay
import Thermals.Proofs.Replay.Outcome

namespace Thermals.Replay

open Time Traffic Detection

namespace Screen

@[simp] theorem write_nil (screen : Screen) : screen.write [] = screen := by
  rw [write, List.append_nil]

@[simp] theorem write_write (screen : Screen) (first second : List String) :
    (screen.write first).write second = screen.write (first ++ second) := by
  simp only [write, List.append_assoc]

end Screen

section OnScreen

variable (host : Host)

theorem run_bind {ε α β : Type} (first : ExceptT ε (StateM Screen) α)
    (next : α → ExceptT ε (StateM Screen) β) (screen : Screen) :
    (first >>= next).run.run screen = match first.run.run screen with
      | (.ok a, after) => (next a).run.run after
      | (.error e, after) => (.error e, after) := by
  rw [ExceptT.run_bind, StateT.run_bind]
  rcases first.run.run screen with ⟨ended, after⟩
  cases ended <;> rfl

theorem run_lift {ε α : Type} (action : StateM Screen α) (screen : Screen) :
    (liftM action : ExceptT ε (StateM Screen) α).run.run screen =
      (.ok (action.run screen).1, (action.run screen).2) := rfl

theorem run_stage {α : Type} (stage : Except Fault α) (screen : Screen) :
    (liftM stage : ExceptT Fault (StateM Screen) α).run.run screen = (stage, screen) := by
  cases stage <;> rfl

theorem run_note (note : Note) (screen : Screen) :
    ((System.onScreen host).note note).run screen = ((), screen.write (host.journal note)) := rfl

theorem run_settingsText (file : Option String) (screen : Screen) :
    ((System.onScreen host).settingsText file).run screen = (host.textOf file, screen) := by
  cases file <;> rfl

theorem run_prepare (arguments : Arguments) (screen : Screen) :
    ((System.onScreen host).prepare arguments).run.run screen =
      match settings (host.textOf arguments.config) arguments.maxAge with
      | .error fault => (.error fault, screen)
      | .ok config => ((host.ticksIn arguments.log).map (Prod.mk config),
          screen.write (host.journal (.replaying arguments.log config))) := by
  rw [System.prepare, run_bind, run_lift, run_settingsText]
  dsimp only
  rw [run_bind, run_stage]
  cases settings (host.textOf arguments.config) arguments.maxAge with
  | error fault => rfl
  | ok config =>
    have content (after : Screen) : ((System.onScreen host).content? arguments.log).run after =
        (host.file? arguments.log, after) := rfl
    simp only [run_bind, run_lift, run_stage, run_note, content, Host.ticksIn]
    cases fileContent (host.file? arguments.log) with
    | error fault => rfl
    | ok log =>
      simp only [bind, Except.bind]
      cases Log.ticks log.toList <;> rfl

theorem run_makeRoom (d : Detector) (id : FlarmId) (screen : Screen) :
    ((System.onScreen host).makeRoom d id).run.run screen =
      (match d.table.get? id, host.dies? (room d.config) with
        | none, some status => .error status
        | _, _ => .ok (), screen) := by
  have reserved : ((System.onScreen host).reserve (room d.config)).run screen =
      (host.dies? (room d.config), screen) := rfl
  unfold System.makeRoom
  cases d.table.get? id with
  | some track => rfl
  | none =>
    rw [run_bind, run_lift, reserved]
    cases host.dies? (room d.config) <;> rfl

section Held

variable {d : Detector} (held : host.dies? (room d.config) = none)
include held

theorem run_receive (now : Instant) (report : Report) (screen : Screen) :
    ((System.onScreen host).receive now d report).run.run screen = (.ok (d.update now report),
      screen.write (host.journal (.receiving now report) ++ host.journal (.received now report))) := by
  have made (screen : Screen) : ((System.onScreen host).makeRoom d report.id).run.run screen =
      (.ok (), screen) := by
    rw [run_makeRoom, held]
    cases d.table.get? report.id <;> rfl
  simp only [System.receive, run_bind, run_lift, run_note, made, Screen.write_write]
  rfl

theorem run_foldlM_receive (now : Instant) (reports : List Report) (screen : Screen) :
    (reports.foldlM ((System.onScreen host).receive now) d).run.run screen =
      (.ok (reports.foldl (fun d report => d.update now report) d),
        screen.write (reports.flatMap fun report => host.journal (.receiving now report) ++
          host.journal (.received now report))) := by
  induction reports generalizing d screen with
  | nil =>
    rw [List.flatMap_nil, Screen.write_nil]
    rfl
  | cons report rest ih =>
    have first : host.dies? (room (d.update now report).config) = none := held
    rw [List.foldlM_cons, run_bind, run_receive host held]
    dsimp only
    rw [ih first, Screen.write_write]
    rfl

theorem run_advance (tick : Tick) (screen : Screen) :
    ((System.onScreen host).advance d tick).run.run screen =
      (.ok (d.advance tick), screen.write (host.details tick)) := by
  rw [System.advance, run_bind, run_foldlM_receive host held]
  dsimp only
  rw [run_bind, run_lift, run_note, Screen.write_write]
  rfl

end Held

theorem run_forM_print (json : Bool) (time : Instant) (tracks : List Track) (screen : Screen) :
    (tracks.forM fun track => (liftM ((System.onScreen host).print (line json time track)) :
      ExceptT UInt32 (StateM Screen) Unit)).run.run screen =
      (.ok (), screen.write (tracks.map (line json time))) := by
  induction tracks generalizing screen with
  | nil =>
    rw [List.map_nil, Screen.write_nil]
    rfl
  | cons track rest ih =>
    have later := ih (screen.write [line json time track])
    rw [Screen.write_write] at later
    exact later

theorem run_play (json : Bool) (d : Detector) (ticks : List Tick) (screen : Screen)
    (held : ticks ≠ [] → host.dies? (room d.config) = none) :
    ((System.onScreen host).play json d ticks).run.run screen = (.ok (), screen.write
      ((d.shown ticks).flatMap (fun (tick, thermals) =>
        host.details tick ++ thermals.tracks.map (line json tick.time)) ++
        host.journal (.ended (ticks.foldl Detector.advance d).table.size))) := by
  induction ticks generalizing d screen with
  | nil => rfl
  | cons tick rest ih =>
    have held : host.dies? (room d.config) = none := held (List.cons_ne_nil tick rest)
    have kept : (d.advance tick).config = d.config := Detector.config_advance d tick
    have later (after : Screen) := ih (d.advance tick) after fun _ => by rw [kept, held]
    simp only [System.play, run_bind, run_advance host held, run_forM_print, later,
      Screen.write_write, Detector.shown, List.flatMap_cons, List.foldl_cons, List.append_assoc]

theorem run_play_died {config : Config} {first : Tick} {status : UInt32} (json : Bool)
    (later : List Tick) (screen : Screen) (heard : first.roster.reports ≠ [])
    (unheld : host.dies? (room config) = some status) :
    ((System.onScreen host).play json (.start config) (first :: later)).run.run screen =
      (.error status, screen.write (first.roster.reports.head?.toList.flatMap fun report =>
        host.journal (.receiving first.time report))) := by
  obtain ⟨report, rest, reports⟩ := List.exists_cons_of_ne_nil heard
  have refused (after : Screen) :
      ((System.onScreen host).makeRoom (.start config) report.id).run.run after =
        (.error status, after) := by
    have absent : (Detector.start config).table.get? report.id = none := rfl
    have unheld : host.dies? (room (Detector.start config).config) = some status := unheld
    rw [run_makeRoom, absent, unheld]
  rw [System.play, System.advance, reports, List.foldlM_cons, System.receive, List.head?_cons,
    Option.toList_some, List.flatMap_singleton]
  simp only [run_bind, run_lift, run_note, refused]

theorem run_ended (played : ExceptT UInt32 (StateM Screen) Unit) (screen : Screen) :
    (do match ← played.run with
        | .error status => return status
        | .ok () => return 0 : StateM Screen UInt32).run screen =
      match played.run.run screen with
      | (.error status, after) => (status, after)
      | (.ok (), after) => (0, after) := by
  rw [StateT.run_bind]
  rcases played.run.run screen with ⟨status | ⟨⟩, after⟩ <;> rfl

theorem execute_eq {command : List String} {arguments : Arguments}
    (parsed : Arguments.parse? command = some arguments) :
    host.execute command = match ((System.onScreen host).prepare arguments).run.run {} with
      | (.error fault, screen) =>
        (1, { screen with complaints := screen.complaints ++ [.fault fault] })
      | (.ok (config, ticks), screen) =>
        match ((System.onScreen host).play arguments.json (.start config) ticks).run.run screen with
        | (.error status, screen) => (status, screen)
        | (.ok (), screen) => (0, screen) := by
  rw [Host.execute, System.program, parsed]
  simp only [StateT.run_bind]
  rcases ((System.onScreen host).prepare arguments).run.run {} with ⟨fault | ⟨config, ticks⟩, screen⟩
  · rfl
  · exact run_ended _ _

theorem execute_of_parsed {command : List String} {arguments : Arguments}
    (parsed : Arguments.parse? command = some arguments) :
    host.execute command = ((host.outcome arguments).status, {
      printed := host.output arguments.log arguments.json (host.outcome arguments)
      complaints := (host.outcome arguments).complaints }) := by
  rw [execute_eq host parsed, run_prepare]
  cases ready : settings (host.textOf arguments.config) arguments.maxAge with
  | error fault =>
    rw [outcome_eq_unfit ready]
    rfl
  | ok config =>
    cases read : host.ticksIn arguments.log with
    | error fault =>
      rw [outcome_eq_unread ready read]
      rfl
    | ok ticks =>
      dsimp only [Except.map]
      by_cases held : ticks ≠ [] → host.dies? (room config) = none
      · rw [run_play host arguments.json (.start config) ticks _ held, Screen.write_write,
          outcome_eq_replayed ready read held, Host.output, flatMap_shownTracks, List.append_assoc]
        rfl
      · rw [Classical.not_imp] at held
        obtain ⟨some_tick, dies⟩ := held
        obtain ⟨first, later, rfl⟩ := List.exists_cons_of_ne_nil some_tick
        obtain ⟨status, unheld⟩ := Option.ne_none_iff_exists'.mp dies
        rw [run_play_died host arguments.json later _ (reported_of_ticksIn read first (by simp)) unheld,
          Screen.write_write, outcome_eq_died ready read unheld]
        rfl

def Host.replay (arguments : Arguments) : Except Fault (List String) :=
  run {
    config := host.textOf arguments.config, maxAge := arguments.maxAge
    log := (host.file? arguments.log).map ByteArray.toList, json := arguments.json }

theorem replay_eq (arguments : Arguments) :
    host.replay arguments = do
      let config ← settings (host.textOf arguments.config) arguments.maxAge
      let ticks ← host.ticksIn arguments.log
      return lines arguments.json config ticks := by
  rw [Host.replay, run, Host.ticksIn]
  cases settings (host.textOf arguments.config) arguments.maxAge with
  | error fault => rfl
  | ok config => cases host.file? arguments.log <;> rfl

theorem lines_eq_map_thermals (json : Bool) (config : Config) (ticks : List Tick) (tracked : Nat) :
    lines json config ticks = (Outcome.replayed config (shownTracks config ticks) tracked).thermals.map
      fun e => line json e.1 e.2 := by
  simp only [lines_eq_flatMap_shownTracks, Outcome.thermals, List.map_flatMap, List.map_map]
  rfl

/-- Where nothing is logged and no memory is wanting, the screen shows what the replay comes to. -/
theorem execute_eq_replay (quiet : host.Quiet) (roomy : ∀ room, host.dies? room = none)
    {command : List String} {arguments : Arguments}
    (parsed : Arguments.parse? command = some arguments) :
    host.execute command = match host.replay arguments with
      | .ok lines => (0, { printed := lines })
      | .error fault => (1, { complaints := [.fault fault] }) := by
  rw [execute_of_parsed host parsed, quiet.output_eq, replay_eq]
  cases ready : settings (host.textOf arguments.config) arguments.maxAge with
  | error fault =>
    rw [outcome_eq_unfit ready]
    rfl
  | ok config =>
    cases read : host.ticksIn arguments.log with
    | error fault =>
      rw [outcome_eq_unread ready read]
      rfl
    | ok ticks =>
      rw [outcome_eq_replayed ready read fun _ => roomy _, ← lines_eq_map_thermals]
      rfl

end OnScreen

def Host.replacing (host : Host) (path : String) (content : ByteArray) : Host :=
  { host with file? := fun other => if other = path then some content else host.file? other }

/-- With the records of a time in another order, those of each target in theirs, a log leaves the same on
the screen. -/
theorem execute_replacing {host : Host} (quiet : host.Quiet)
    (roomy : ∀ room, host.dies? room = none) {command : List String} {arguments : Arguments}
    (parsed : Arguments.parse? command = some arguments)
    (apart : arguments.config ≠ some arguments.log) {content other : ByteArray}
    (found : host.file? arguments.log = some content) {ticks : List Tick}
    (read : Log.ticks content.toList = .ok ticks)
    (reordered : Log.Reordered (Log.records content.toList) (Log.records other.toList)) :
    (host.replacing arguments.log other).execute command = host.execute command := by
  obtain ⟨others, other_read, same⟩ := Log.ticksOf_of_reordered read reordered
  have settings : (host.replacing arguments.log other).textOf arguments.config =
      host.textOf arguments.config := by
    cases named : arguments.config with
    | none => rfl
    | some path =>
      have differ : path ≠ arguments.log := fun same => apart (by rw [named, same])
      simp [Host.textOf, Host.replacing, differ]
  have replaced : (host.replacing arguments.log other).file? arguments.log = some other :=
    if_pos rfl
  rw [execute_eq_replay host quiet roomy parsed,
    execute_eq_replay (host.replacing arguments.log other) quiet roomy parsed, Host.replay,
    Host.replay, settings, replaced, found, Option.map_some, Option.map_some,
    run_congr read other_read same]

/-- A replay ends in one way only: with the fault of its first stage that fails, or with all that is
published after its ticks. Either form of output shows the same, each thermal on a line of its own, and
a failure nothing of it. Only the log of the program has lines besides these. -/
theorem execute_ends_once (host : Host) (arguments : Arguments) :
    ∃ outcome, (∀ other, host.Ends arguments other ↔ other = outcome) ∧
      (outcome.status ≠ 0 → outcome.thermals = []) ∧
      ∀ command json, Arguments.parse? command = some { arguments with json } →
        host.execute command = (outcome.status, {
          printed := host.output arguments.log json outcome, complaints := outcome.complaints }) ∧
        (host.Quiet → host.output arguments.log json outcome =
          outcome.thermals.map fun e => line json e.1 e.2) ∧
        ∀ e ∈ outcome.thermals, Text.OneLine (line json e.1 e.2) := by
  refine ⟨host.outcome arguments, fun _ => ends_iff, Outcome.thermals_of_failed _, ?_⟩
  intro command json parsed
  exact ⟨execute_of_parsed host parsed, fun quiet => quiet.output_eq _ _ _,
    fun e _ => oneLine_line json e.1 e.2⟩

/-- The log of the program as far as it tells what is replayed. -/
def informing : Note → List String
  | .replaying log _ => ["INFO replaying " ++ log]
  | .ended tracked => ["INFO " ++ toString tracked ++ " thermal states at end of replay"]
  | .receiving _ _ | .received _ _ | .swept _ => []

namespace Shelf

def settings (age size : String) : String :=
  "(min_turn_rate: 15, max_diameter: 1000, min_circling_duration: \"45s\", " ++
    "max_recently_stopped_age: \"" ++ age ++ "\", position_history_size: " ++ size ++ ")"

def header : String := "time,id,lat,lon,turn_rate,climb_rate\n"

/-- Settings without an age and with a vast history, a log with a thermal, and one whose last record is
too early. -/
def file? (path : String) : Option ByteArray :=
  match path with
  | "ageless.ron" => some (settings "0s" "10").toUTF8
  | "vast.ron" => some (settings "10min" "18446744073709551615").toUTF8
  | "thermal.csv" => some (header ++ "0,DD8F12,0,8.5,20,1\n45000,DD8F12,0,8.5,20,1\n").toUTF8
  | "late.csv" => some (header ++ "1000,DD8F12,47.5,8.5,20,1\n999,3F0001,,,,\n").toUTF8
  | _ => none

def host : Host := { file?, journal := informing }

end Shelf

/-- The age would be fit for use, but the settings are looked at first; and without them it is the last
record of the log that is too early. -/
theorem execute_ends_at_first_failure :
    Shelf.host.execute ["-c", "ageless.ron", "--max-age", "2min", "late.csv"] =
      (1, { complaints := [.fault (.config .maxRecentlyStoppedAge)] }) ∧
    Shelf.host.execute ["--max-age", "2min", "late.csv"] = (1, {
      printed := ["INFO replaying late.csv"]
      complaints := [.fault (.record (.outOfOrder Flight.other (.clamp 999) (.clamp 1000)))] }) ∧
    Host.execute { file? := Shelf.file? } ["thermal.csv"] = (0, { printed := [
      "1970-01-01T00:00:45.000Z TrafficThermal( id: DD8F12, state: circling, " ++
        "center: [8.500000,0.000000], climb: 1.00m/s (1 samples), " ++
        "updated: 1970-01-01T00:00:45.000Z)"] }) := by
  refine ⟨?_, ?_, ?_⟩
  · let arguments : Arguments :=
      { log := "late.csv", config := some "ageless.ron", maxAge := some (.ofMinutes 2) }
    obtain ⟨outcome, decided, -, ended⟩ := execute_ends_once Shelf.host arguments
    have failed : baseConfig (Shelf.host.textOf arguments.config) =
        .error (.config .maxRecentlyStoppedAge) := by decide +kernel
    rw [(ended _ false (by decide +kernel)).1, ← (decided _).mp (.unfitSettings failed)]
    rfl
  · let arguments : Arguments := { log := "late.csv", maxAge := some (.ofMinutes 2) }
    obtain ⟨outcome, decided, -, ended⟩ := execute_ends_once Shelf.host arguments
    have ready : settings (Shelf.host.textOf arguments.config) arguments.maxAge =
        .ok { maxRecentlyStoppedAge := .ofMinutes 2 } := by decide +kernel
    have failed : Shelf.host.ticksIn arguments.log = .error (.record
        (.outOfOrder Flight.other (.clamp 999) (.clamp 1000))) := by decide +kernel
    rw [(ended _ false (by decide +kernel)).1, ← (decided _).mp (.unreadLog ready failed)]
    decide +kernel
  · let host : Host := { file? := Shelf.file? }
    let arguments : Arguments := { log := "thermal.csv" }
    obtain ⟨outcome, decided, -, ended⟩ := execute_ends_once host arguments
    let turn (seconds : Int) := Flight.tick seconds [Flight.sighted Flight.target 20.0 1.0]
    have read : host.ticksIn arguments.log = .ok [turn 0, turn 45] := by decide +kernel
    have replayed : host.Ends arguments _ := .replayed rfl read (fun _ => rfl)
      (shows_shownTracks {} (by decide +kernel)) (map_fst_shownTracks _ _)
    obtain ⟨ran, silent, -⟩ := ended ["thermal.csv"] false (by decide +kernel)
    rw [ran, silent fun _ => rfl, ← (decided _).mp replayed]
    decide +kernel

/-- A log is noted before it is read, so that its refusal does not leave the output empty. A history
for which there is no window passes the checks, and the first report ends the program. -/
theorem noted_before_refusal_and_died_of_vast_history :
    Shelf.host.execute ["late.csv"] = (1, {
      printed := ["INFO replaying late.csv"]
      complaints := [.fault (.record (.outOfOrder Flight.other (.clamp 999) (.clamp 1000)))] }) ∧
    settings (Shelf.host.textOf (some "vast.ron")) none = .ok { positionHistorySize := 2 ^ 64 - 1 } ∧
    (Shelf.host.ticksIn "thermal.csv").isOk = true ∧
    Shelf.host.execute ["-c", "vast.ron", "thermal.csv"] =
      (101, { printed := ["INFO replaying thermal.csv"] }) := by
  refine ⟨?_, ?_, ?_, ?_⟩ <;> decide +kernel

end Thermals.Replay
