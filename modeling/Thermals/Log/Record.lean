import Thermals.Log.Row
import Thermals.Number.Style
import Thermals.Number.Literal
import Thermals.Number.Hex
import Thermals.Time.Instant
import Thermals.Traffic.Report

namespace Thermals.Log

open Number Time Traffic Geo

structure Record where
  time : Instant
  id : String
  latitude : Option Float
  longitude : Option Float
  turnRate : Option Float
  climbRate : Option Float
  name : Option String
  deriving DecidableEq

inductive Column where
  | time | id | latitude | longitude | turnRate | climbRate | name
  deriving DecidableEq, Repr

namespace Column

def all : List Column := [time, id, latitude, longitude, turnRate, climbRate, name]

def header : Column → String
  | time => "time"
  | id => "id"
  | latitude => "lat"
  | longitude => "lon"
  | turnRate => "turn_rate"
  | climbRate => "climb_rate"
  | name => "name"

end Column

/-- A whole number, which can be hexadecimal behind `0x`. -/
def wholeNumber? (text : List Char) : Option Int :=
  match text with
  | '0' :: 'x' :: rest =>
    let (negative, digits) := takeSign rest
    if digits = [] then none
    else (readHex 0 digits).map fun n => if negative then -n else n
  | _ => int? text

def instant? (text : String) : Option Instant := (wholeNumber? text.toList).bind Instant.ofMillis?

def optional? {α : Type} (read : String → Option α) (field : Option String) : Option (Option α) :=
  match field with
  | none => some none
  | some text => if text = "" then some none else (read text).map some

def Record.ofFields? (field : Column → Option String) : Option Record := do
  let time ← (field .time).bind instant?
  let id ← field .id
  let number (column : Column) : Option (Option Float) :=
    optional? (fun text => float? text.toList) (field column)
  return {
    time, id
    latitude := ← number .latitude
    longitude := ← number .longitude
    turnRate := ← number .turnRate
    climbRate := ← number .climbRate
    name := ← optional? some (field .name) }

/-- The fields by the names of their columns. A known column must not occur twice, and one that is
not known needs a field in every row. -/
def Record.ofNamed? (header fields : List String) : Option Record :=
  let known := Column.all.map Column.header
  let twice := known.any fun name => 1 < header.count name
  let beyond := (header.drop fields.length).any fun name => !known.contains name
  if twice || beyond then none
  else
    let columns := header.zip fields
    ofFields? fun column => columns.lookup column.header

/-- The fields by their places, of which only that of the name can be left out. -/
def Record.ofPlaced? (fields : List String) : Option Record :=
  if fields.length < 6 then none
  else
    let columns := Column.all.zip fields
    ofFields? fun column => columns.lookup column

def records (text : List UInt8) : List (Option Record) :=
  match rows text with
  | [] => []
  | header :: rest =>
    let read := match header.texts? with
      | some names => Record.ofNamed? names
      | none => Record.ofPlaced?
    rest.map fun row => row.texts?.bind read

inductive RecordFault where
  | noId (fault : IdFault)
  | position (id : FlarmId) (time : Instant) (latitude longitude : Float)
  | incompletePosition (id : FlarmId) (time : Instant)
  | rate (id : FlarmId) (time : Instant)
  | outOfOrder (id : FlarmId) (time last : Instant)
  deriving DecidableEq

def whose (id : FlarmId) (time : Instant) : String := id.text ++ " at " ++ toString time.millis

def RecordFault.message : RecordFault → String
  | .noId fault => fault.message
  | .position id time latitude longitude =>
    "invalid position for " ++ whose id time ++ ": lat=" ++ plain.write latitude ++ " lon=" ++
      plain.write longitude
  | .incompletePosition id time => "incomplete position for " ++ whose id time
  | .rate id time => "non-finite rate for " ++ whose id time
  | .outOfOrder id time last =>
    "out of order record for " ++ whose id time ++ " (last tick " ++ toString last.millis ++ ")"

namespace Record

def isCoordinate (limit : Nat) (x : Float) : Bool :=
  match Exact.ofFloat x with
  | .finite _ units => units ≤ degrees limit
  | _ => false

def location (r : Record) (id : FlarmId) : Except RecordFault (Option Point) :=
  match r.latitude, r.longitude with
  | some latitude, some longitude =>
    if isCoordinate 90 latitude && isCoordinate 180 longitude then
      .ok (some (Point.ofDegrees longitude latitude))
    else .error (.position id r.time latitude longitude)
  | none, none => .ok none
  | _, _ => .error (.incompletePosition id r.time)

def isRate (rate : Option Float) : Bool := rate.all Float.isFinite

/-- The report of a record. Its id is checked first, then the position, and then the rates. -/
def report (r : Record) : Except RecordFault Report := do
  let id ← (FlarmId.parse r.id).mapError .noId
  let location ← r.location id
  if isRate r.turnRate && isRate r.climbRate then
    return {
      id, location
      name := r.name.filter (· ≠ "")
      turnRate := r.turnRate
      climbRate := r.climbRate }
  else throw (.rate id r.time)

end Record
end Thermals.Log
