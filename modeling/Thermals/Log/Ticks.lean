import Thermals.Fault
import Thermals.Detection.Detector

namespace Thermals.Log

open Time Traffic Detection

/-- Records with the same time that follow each other make up a tick, in which a later record of a target
takes the place of an earlier one. Times must not fall. -/
def addReport (time : Instant) (report : Report) (ticks : List Tick) :
    Except RecordFault (List Tick) :=
  match ticks with
  | last :: earlier =>
    if last.time = time then .ok ({ last with roster := last.roster.insert report } :: earlier)
    else if time < last.time then .error (.outOfOrder report.id time last.time)
    else .ok (⟨time, Roster.empty.insert report⟩ :: ticks)
  | [] => .ok [⟨time, Roster.empty.insert report⟩]

def addRecord (ticks : List Tick) (record : Option Record) : Except Fault (List Tick) :=
  match record with
  | none => .error .row
  | some record => (do addReport record.time (← record.report) ticks).mapError .record

def ticksOf (records : List (Option Record)) : Except Fault (List Tick) :=
  (records.foldlM addRecord []).map List.reverse

def ticks (text : List UInt8) : Except Fault (List Tick) := ticksOf (records text)

end Thermals.Log
