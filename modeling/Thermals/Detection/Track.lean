import Thermals.Config
import Thermals.Window
import Thermals.Time.Calendar
import Thermals.Traffic.Report
import Thermals.Geo.Box
import Thermals.Detection.Phase
import Thermals.Detection.Climb

namespace Thermals.Detection

open Time Geo Traffic

@[ext] structure Track where
  id : FlarmId
  phase : Phase
  center : Option Point
  climb : Climb
  /-- The time of the last change of phase or report while circling. -/
  updated : Instant
  started : Instant
  history : Window Point
  deriving DecidableEq

/-- Do the recent positions fit into a box with at most this diagonal? Fewer than two always do. -/
def withinArea (history : Window Point) (maxDiameter : Float) : Bool :=
  if history.size < 2 then true
  else
    match Box.enclosing? history.items with
    | some box => box.diagonal ≤ maxDiameter
    | none => true

def meetsTurn (config : Config) (turnRate : Float) : Bool := config.minTurnRate ≤ turnRate.abs

namespace Track

def fresh (id : FlarmId) (historySize : Nat) : Track where
  id := id
  phase := .idle
  center := none
  climb := .none
  updated := .epoch
  started := .epoch
  history := .empty historySize

def age (t : Track) (now : Instant) : Span := now.since t.updated

def reset (t : Track) : Track :=
  { t with history := t.history.clear, climb := .none, center := none }

def probation (t : Track) (location : Point) (now : Instant) : Track :=
  { t with
    phase := .potentiallyCircling, center := none, climb := .none, updated := now, started := now,
    history := t.history.clear.push location }

def accept (t : Track) (location : Point) (climbRate : Option Float) : Track :=
  { t with climb := t.climb.addKnown climbRate, center := some location }

/-- A report with position and turn rate, after its position went into the history.

    idle ──turn──▶ potentially circling ──turn and area for long enough──▶ circling
      ▲                  │          ▲                                         │
      └────── a miss ────┘          └──turn── recently stopped ◀─── a miss ───┘ -/
def transition (config : Config) (now : Instant) (location : Point) (turnRate : Float)
    (climbRate : Option Float) (t : Track) : Track :=
  let turns := meetsTurn config turnRate
  let hit := turns && withinArea t.history config.maxDiameter
  match t.phase with
  | .idle => if turns then t.probation location now else t
  | .potentiallyCircling =>
    if hit then
      let t := { t with updated := now }
      if config.minCirclingDuration ≤ now.since t.started then
        { t with phase := .circling }.accept location climbRate
      else t
    else { t with phase := .idle }.reset
  | .circling =>
    let t := { t with updated := now }
    if hit then t.accept location climbRate else { t with phase := .recentlyStopped }
  | .recentlyStopped => if turns then t.probation location now else t

/-- A report without position or without turn rate. The history is left as it is unless a probation
ends here. -/
def loseSignal (now : Instant) (t : Track) : Track :=
  match t.phase with
  | .circling => { t with phase := .recentlyStopped, updated := now }
  | .potentiallyCircling => { t with phase := .idle }.reset
  | .idle | .recentlyStopped => t

def observe (config : Config) (now : Instant) (report : Report) (t : Track) : Track :=
  match report.location, report.turnRate with
  | some location, some turnRate =>
    { t with history := t.history.push location }.transition config now location turnRate
      report.climbRate
  | _, _ => t.loseSignal now

/-- Is there nothing left to keep? Idle tracks say nothing, stopped ones grow old, and what was not
updated for twice that long has left the feed. -/
def isExpired (t : Track) (now : Instant) (maxAge : Span) : Bool :=
  match t.phase with
  | .idle => true
  | .recentlyStopped => maxAge < t.age now
  | .potentiallyCircling | .circling => maxAge.double < t.age now

def isRelevant (t : Track) (now : Instant) (maxAge : Span) : Bool :=
  match t.phase with
  | .circling => true
  | .recentlyStopped => t.age now ≤ maxAge
  | .idle | .potentiallyCircling => false

def text (t : Track) : String :=
  "TrafficThermal( id: " ++ t.id.text ++ ", state: " ++ t.phase.text ++
    optionalText t.center (fun p => ", center: " ++ p.text) ++
    (if 0 < t.climb.samples then
      ", climb: " ++ Number.fixed 2 t.climb.average ++ "m/s (" ++ toString t.climb.samples ++
        " samples)"
    else "") ++
    ", updated: " ++ t.updated.text ++ ")"

end Track
end Thermals.Detection
