import Thermals.Time.Span.Parser

namespace Thermals.Replay

open Time

structure Arguments where
  log : String
  config : Option String := none
  maxAge : Option Span := none
  json : Bool := false
  deriving DecidableEq

structure Gathered where
  log : Option String := none
  config : Option String := none
  maxAge : Option Span := none
  json : Bool := false

inductive Flag where
  | config
  | maxAge
  | json
  deriving DecidableEq, Repr

def behind? (lead : String) (text : String) : Option String :=
  if lead.toList.isPrefixOf text.toList then some (String.ofList (text.toList.drop lead.length))
  else none

def flag? (argument : String) : Option (Flag × Option String) :=
  match argument with
  | "--json" => some (.json, none)
  | "--config" | "-c" => some (.config, none)
  | "--max-age" => some (.maxAge, none)
  | _ =>
    (behind? "--config=" argument).map (fun value => (.config, some value)) <|>
    (behind? "--max-age=" argument).map (fun value => (.maxAge, some value)) <|>
    (behind? "-c=" argument).map (fun value => (.config, some value)) <|>
    (behind? "-c" argument).map (fun value => (.config, some value))

def isDashed (argument : String) : Bool := argument.toList.head? == some '-' && argument != "-"

namespace Gathered

def addLog (g : Gathered) (path : String) : Option Gathered :=
  if g.log.isSome || path == "" then none else some { g with log := some path }

def addValue (g : Gathered) (flag : Flag) (value : String) : Option Gathered :=
  match flag with
  | .config =>
    if g.config.isSome || value == "" then none else some { g with config := some value }
  | .maxAge =>
    if g.maxAge.isSome then none
    else (Span.parse value).toOption.map fun age => { g with maxAge := some age }
  | .json => none

def addJson (g : Gathered) : Option Gathered :=
  if g.json then none else some { g with json := true }

def read (g : Gathered) : List String → Option Gathered
  | [] => some g
  | "--" :: rest => rest.foldlM addLog g
  | argument :: rest =>
    match flag? argument with
    | some (.json, none) => do (← g.addJson).read rest
    | some (flag, some value) => do (← g.addValue flag value).read rest
    | some (flag, none) =>
      match rest with
      | value :: rest => if isDashed value then none else do (← g.addValue flag value).read rest
      | [] => none
    | none => if isDashed argument then none else do (← g.addLog argument).read rest

end Gathered

def Arguments.parse? (arguments : List String) : Option Arguments := do
  let g ← Gathered.read {} arguments
  return { log := ← g.log, config := g.config, maxAge := g.maxAge, json := g.json }

end Thermals.Replay
