import Thermals.Detection.Detector

namespace Thermals.Detection

open Time Traffic

structure Call where
  time : Instant
  picture : Picture
  last : Picture
  deriving DecidableEq

def Call.tick (call : Call) : Tick := ⟨call.time, call.picture.roster⟩

def note? (report : Report) (last : Option Report) : Option String :=
  match last with
  | none => some ("new traffic report for " ++ report.id.text)
  | some _ => none

namespace Detector

def receive (now : Instant) (last : Roster) (state : Detector × List String) (report : Report) :
    Detector × List String :=
  (state.1.update now report, state.2 ++ (note? report (last.find? report.id)).toList)

def handle (d : Detector) (call : Call) : (Detector × Picture) × List String :=
  let (d, notes) := call.picture.roster.reports.foldl (receive call.time call.last.roster) (d, [])
  let d := d.cleanup call.time
  ((d, { call.picture with thermals := d.relevant call.time }), notes)

def respond (config : Config) (calls : List Call) : Detector × Picture :=
  calls.foldl (fun state call => (state.1.handle call).1) (start config, .empty)

end Detector
end Thermals.Detection
