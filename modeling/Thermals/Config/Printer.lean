import Thermals.Config
import Thermals.Time.Span.Printer

namespace Thermals.Config

open Number

/-- Numbers in RON have a point or an exponent, and a positive exponent has no sign. -/
def numberStyle : Style where
  positional leading := -4 ≤ leading ∧ leading < 16
  whole := ".0"
  plus := ""
  nan := "NaN"
  infinite negative := if negative then "-inf" else "inf"

def quote (text : String) : String := "\"" ++ text ++ "\""

def fields (c : Config) : List (String × String) := [
  ("min_turn_rate", numberStyle.write c.minTurnRate),
  ("max_diameter", numberStyle.write c.maxDiameter),
  ("min_circling_duration", quote c.minCirclingDuration.text),
  ("max_recently_stopped_age", quote c.maxRecentlyStoppedAge.text),
  ("position_history_size", toString c.positionHistorySize)]

def line (field : String × String) : String := "    " ++ field.1 ++ ": " ++ field.2 ++ ",\n"

def text (c : Config) : String :=
  "ThermalDetectorConfig(\n" ++ String.join (c.fields.map line) ++ ")"

end Thermals.Config
