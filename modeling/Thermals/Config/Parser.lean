import Thermals.Config
import Thermals.Ron.Value
import Thermals.Time.Span.Parser

namespace Thermals.Config

open Ron Time

structure Draft where
  minTurnRate : Option Float := none
  maxDiameter : Option Float := none
  minCirclingDuration : Option Span := none
  maxRecentlyStoppedAge : Option Span := none
  positionHistorySize : Option Nat := none

namespace Draft

def config? (d : Draft) : Option Config := do
  return ⟨← d.minTurnRate, ← d.maxDiameter, ← d.minCirclingDuration, ← d.maxRecentlyStoppedAge,
    ← d.positionHistorySize⟩

open Ron.Reader

def once {α : Type} (held : Option α) (value : Reader α) : Reader (Option α) := do
  ensure held.isNone
  return some (← value)

def span : Reader Span := do lift (Span.parse (← Ron.Reader.text)).toOption

/-- How deep the value of a setting that is not known can be nested. -/
def nestingStore : Nat := 126

def assign (d : Draft) (key : String) : Reader Draft :=
  match key with
  | "min_turn_rate" => return { d with minTurnRate := ← once d.minTurnRate (float ["f64"]) }
  | "max_diameter" => return { d with maxDiameter := ← once d.maxDiameter (float ["f64"]) }
  | "min_circling_duration" =>
    return { d with minCirclingDuration := ← once d.minCirclingDuration span }
  | "max_recently_stopped_age" =>
    return { d with maxRecentlyStoppedAge := ← once d.maxRecentlyStoppedAge span }
  | "position_history_size" =>
    return { d with positionHistorySize := ← once d.positionHistorySize unsigned64 }
  | _ => do
    anyValue nestingStore
    return d

def setting (d : Draft) : Reader Draft := do
  let key ← name
  spaces
  char ':'
  spaces
  d.assign key

/-- The extensions of the notation that a text can ask for. Only the last one matters here. -/
def extensions : List String :=
  ["unwrap_newtypes", "implicit_some", "unwrap_variant_newtypes", "explicit_struct_names"]

def header (named : List String) : Reader (List String) := do
  for mark in ["#", "!", "[", "enable", "("] do
    chars mark.toList
    spaces
  let listed ← separated ')' (fun listed => return listed ++ [← name]) []
  ensure (!listed.isEmpty && listed.all extensions.contains)
  spaces
  char ']'
  spaces
  return named ++ listed

def headers : Nat → List String → Reader (List String)
  | 0, named => pure named
  | room + 1, named => do
    if ← ahead (· == '#') then headers room (← header named) else return named

/-- The name of the settings, which can be left out unless the text asked for names. -/
def title (required : Bool) : Reader Unit := do
  if ← ahead startsName then ensure ((← name) == "ThermalDetectorConfig") else ensure !required

def read : Reader Draft := do
  spaces
  let named ← headers (← get).length []
  title (named.contains "explicit_struct_names")
  spaces
  char '('
  spaces
  let d ← separated ')' setting {}
  spaces
  return d

end Draft

/-- Each setting has to be there once, in any order, and settings that are not known are passed over. -/
def parse? (text : String) : Option Config := (Draft.read.all? text).bind Draft.config?

end Thermals.Config
