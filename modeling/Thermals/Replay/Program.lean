import Thermals.Replay
import Thermals.Replay.Arguments

namespace Thermals.Replay

open Time Traffic Detection

/-- What the program notes in the course of a replay. The notes from the report that is `receiving` to
the table that is `swept` are details of the detection. -/
inductive Note where
  | replaying (log : String) (config : Config)
  | receiving (now : Instant) (report : Report)
  | received (now : Instant) (report : Report)
  | swept (now : Instant)
  | ended (tracked : Nat)

inductive Complaint where
  | usage
  | fault (cause : Fault)
  deriving DecidableEq

def Complaint.text : Complaint → String
  | .usage => "usage: thermals [--config FILE] [--max-age AGE] [--json] LOG"
  | .fault cause => "Error: " ++ cause.message "cannot be read"

/-- What the program needs of its surroundings, in the monad that it runs in. -/
structure System (m : Type → Type) where
  content? : String → m (Option ByteArray)
  print : String → m Unit
  complain : Complaint → m Unit
  note : Note → m Unit
  /-- Asks for the memory of a window. If there is none, the program dies with the status given. -/
  reserve : Nat → m (Option UInt32)

/-- The status with which the program dies of asking for a window that cannot be addressed, at sixteen
bytes for each position. -/
def overflow? (room : Nat) : Option UInt32 :=
  if 0x8000000000000000 ≤ 16 * room then some 101 else none

def room (config : Config) : Nat := max config.positionHistorySize 1

namespace System

variable {m : Type → Type} [Monad m] (system : System m)

def settingsText (file : Option String) : m (Option (Option String)) :=
  match file with
  | none => return none
  | some path => return some ((← system.content? path).bind String.fromUTF8?)

def prepare (arguments : Arguments) : ExceptT Fault m (Config × List Tick) := do
  let config ← settings (← system.settingsText arguments.config) arguments.maxAge
  system.note (.replaying arguments.log config)
  let log ← fileContent (← system.content? arguments.log)
  let ticks ← Log.ticks log.toList
  return (config, ticks)

def makeRoom (d : Detector) (id : FlarmId) : ExceptT UInt32 m Unit :=
  match d.table.get? id with
  | some _ => return
  | none => do
    match ← system.reserve (room d.config) with
    | some status => throw status
    | none => return

def receive (now : Instant) (d : Detector) (report : Report) : ExceptT UInt32 m Detector := do
  system.note (.receiving now report)
  system.makeRoom d report.id
  system.note (.received now report)
  return d.update now report

def advance (d : Detector) (tick : Tick) : ExceptT UInt32 m Detector := do
  let d ← tick.roster.reports.foldlM (system.receive tick.time) d
  system.note (.swept tick.time)
  return d.cleanup tick.time

/-- Prints what is shown after each tick before the next tick is taken. -/
def play (json : Bool) (d : Detector) : List Tick → ExceptT UInt32 m Unit
  | [] => system.note (.ended d.table.size)
  | tick :: rest => do
    let d ← system.advance d tick
    (d.relevant tick.time).tracks.forM fun track => system.print (line json tick.time track)
    play json d rest

/-- Ends with 2 for a command line that cannot be used, and with 1 for a replay that fails. -/
def program (command : List String) : m UInt32 := do
  match Arguments.parse? command with
  | none =>
    system.complain .usage
    return 2
  | some arguments =>
    match ← (system.prepare arguments).run with
    | .error fault =>
      system.complain (.fault fault)
      return 1
    | .ok (config, ticks) =>
      match ← (system.play arguments.json (.start config) ticks).run with
      | .error status => return status
      | .ok () => return 0

end System
end Thermals.Replay
