import Thermals.Json.Value.Parser
import Thermals.Json.Number
import Thermals.Detection.Track

namespace Thermals

open Json

namespace Time

def Instant.json (t : Instant) : Value := .ofInt t.millis

end Time

namespace Geo.Point

def json (p : Point) : Value :=
  .record [("lon", .ofFloat p.longitude), ("lat", .ofFloat p.latitude)]

def longitudeKeys : List String := ["lon", "longitude", "x"]

def latitudeKeys : List String := ["lat", "latitude", "y"]

def readNumber? : Value → Option Float
  | .number text => (Numeral.ofText text.toList).value?
  | _ => none

def readField? (keys : List String) (fields : List (String × Value)) : Option Float :=
  match fields.filter (fun field => keys.contains field.1) with
  | [field] => readNumber? field.2
  | _ => none

/-- Reads a point from a record, whose other fields do not matter, or from a pair. -/
def ofJson? (value : Value) : Option Point :=
  match value with
  | .array [longitude, latitude] => do
    return ofDegrees (← readNumber? longitude) (← readNumber? latitude)
  | .object fields => do
    let fields ← fields.mapM fun (key, value) => (unescaped? key).map (·, value)
    return ofDegrees (← readField? longitudeKeys fields) (← readField? latitudeKeys fields)
  | _ => none

end Geo.Point

namespace Traffic.FlarmId

def json (id : FlarmId) : Value := .ofString id.text

def ofJson? : Value → Option FlarmId
  | .string written => do (parse (← unescaped? written)).toOption
  | _ => none

end Traffic.FlarmId

namespace Window

def json {α : Type} (item : α → Value) (w : Window α) : Value := .array (w.items.map item)

end Window

namespace Detection

def Phase.json (p : Phase) : Value := .ofString p.name

/-- A phase is its name, or a record with nothing under its name. -/
def Phase.ofJson? : Value → Option Phase
  | .string written => (unescaped? written).bind ofName?
  | .object [(key, .null)] => (unescaped? key).bind ofName?
  | _ => none

def Climb.json (c : Climb) : Value :=
  .record [("sum", .ofFloat c.sum), ("samples", .ofNat c.samples), ("average", .ofFloat c.average)]

/-- The history of positions is not published, and neither is a center that there is not. -/
def Track.json (t : Track) : Value :=
  .record ([("id", t.id.json), ("state", t.phase.json)] ++
    (t.center.map fun p => ("center_location", p.json)).toList ++
    [("climb", t.climb.json), ("last_update_time", t.updated.json),
      ("circling_start_time", t.started.json)])

end Detection
end Thermals
