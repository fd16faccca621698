import Thermals.Log.Ticks
import Thermals.Config.Parser
import Thermals.Json.Records

namespace Thermals

open Time Detection

def Config.load (text : String) : Except Fault Config :=
  match Config.parse? text with
  | some config => config.validate.mapError .config
  | none => .error .settings

namespace Replay

/-- What a replay works on. Files that cannot be read have no content. -/
structure Input where
  config : Option (Option String) := none
  maxAge : Option Span := none
  log : Option (List UInt8)
  json : Bool := false

def fileContent {α : Type} (content : Option α) : Except Fault α :=
  match content with
  | some content => .ok content
  | none => .error .file

def baseConfig (file : Option (Option String)) : Except Fault Config :=
  match file with
  | none => .ok {}
  | some content => do Config.load (← fileContent content)

def settings (file : Option (Option String)) (maxAge : Option Span) : Except Fault Config := do
  let config ← baseConfig file
  match maxAge with
  | none => return config
  | some age => (config.withMaxRecentlyStoppedAge age).mapError .config

def line (json : Bool) (time : Instant) (track : Track) : String :=
  if json then track.json.text else time.text ++ " " ++ track.text

def lines (json : Bool) (config : Config) (ticks : List Tick) : List String :=
  ((Detector.start config).shown ticks).flatMap fun (tick, thermals) =>
    thermals.tracks.map (line json tick.time)

def run (input : Input) : Except Fault (List String) := do
  let config ← settings input.config input.maxAge
  let ticks ← Log.ticks (← fileContent input.log)
  return lines input.json config ticks

end Replay
end Thermals
