import Thermals.Detection.Table

namespace Thermals.Detection

open Time Traffic

@[ext] structure Detector where
  config : Config
  table : Table
  deriving DecidableEq

structure Picture where
  roster : Roster
  thermals : Table
  deriving DecidableEq

namespace Picture

def empty : Picture := ⟨.empty, .empty⟩

def ofRoster (roster : Roster) : Picture := ⟨roster, .empty⟩

def isDetected (p : Picture) : Bool := !p.roster.isEmpty

end Picture

structure Tick where
  time : Instant
  roster : Roster
  deriving DecidableEq

namespace Detector

def start (config : Config) : Detector := ⟨config, .empty⟩

def track (d : Detector) (id : FlarmId) : Track := d.table.track d.config.positionHistorySize id

/-- Takes one report in. Two reports of a target in one tick would count its climb twice. -/
def update (d : Detector) (now : Instant) (report : Report) : Detector :=
  let track := { d.track report.id with id := report.id }
  { d with table := d.table.put report.id (track.observe d.config now report) }

def cleanup (d : Detector) (now : Instant) : Detector :=
  { d with table := d.table.sweep now d.config.maxRecentlyStoppedAge }

def relevant (d : Detector) (now : Instant) : Table :=
  d.table.relevant now d.config.maxRecentlyStoppedAge

def advance (d : Detector) (tick : Tick) : Detector :=
  (tick.roster.reports.foldl (fun d report => d.update tick.time report) d).cleanup tick.time

def process (d : Detector) (picture : Picture) (now : Instant) : Detector × Picture :=
  let d := d.advance ⟨now, picture.roster⟩
  (d, { picture with thermals := d.relevant now })

def run (config : Config) (ticks : List Tick) : Detector := ticks.foldl advance (start config)

def shown (d : Detector) : List Tick → List (Tick × Table)
  | [] => []
  | tick :: rest =>
    let d := d.advance tick
    (tick, d.relevant tick.time) :: d.shown rest

end Detector
end Thermals.Detection
