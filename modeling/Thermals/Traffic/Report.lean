import Thermals.Traffic.FlarmId
import Thermals.Geo.Point

namespace Thermals.Traffic

open Geo Number

/-- What a report leaves out is unknown; it is never filled in from an earlier one. -/
structure Report where
  id : FlarmId
  /-- The callsign, for display only. -/
  name : Option String := none
  location : Option Point := none
  turnRate : Option Float := none
  climbRate : Option Float := none
  deriving DecidableEq

def optionalText {α : Type} (value : Option α) (text : α → String) : String :=
  match value with
  | some a => text a
  | none => ""

def Report.text (r : Report) : String :=
  "FlarmTraffic( id: " ++ r.id.text ++
    optionalText r.name (fun name => ", name: \"" ++ name ++ "\"") ++
    optionalText r.location (fun p => ", pos: " ++ p.text) ++
    optionalText r.turnRate (fun v => ", turn: " ++ fixed 1 v) ++
    optionalText r.climbRate (fun v => ", climb: " ++ fixed 1 v) ++ ")"

def upsert (report : Report) : List Report → List Report
  | [] => [report]
  | r :: rest => if r.id = report.id then report :: rest else r :: upsert report rest

theorem mem_ids_upsert {report : Report} {reports : List Report} {id : FlarmId} :
    id ∈ (upsert report reports).map Report.id ↔
      id = report.id ∨ id ∈ reports.map Report.id := by
  induction reports with
  | nil => simp [upsert]
  | cons r rest ih =>
    by_cases same : r.id = report.id
    · simp [upsert, same]
    · simp only [upsert, same, if_false, List.map_cons, List.mem_cons, ih]
      constructor <;> rintro (h | h | h) <;> simp [h]

theorem nodup_ids_upsert (report : Report) {reports : List Report}
    (h : (reports.map Report.id).Nodup) : ((upsert report reports).map Report.id).Nodup := by
  induction reports with
  | nil => simp [upsert]
  | cons r rest ih =>
    simp only [List.map_cons, List.nodup_cons] at h
    by_cases same : r.id = report.id
    · simp only [upsert, same, if_true, List.map_cons, List.nodup_cons]
      exact ⟨same ▸ h.1, h.2⟩
    · simp only [upsert, same, if_false, List.map_cons, List.nodup_cons, mem_ids_upsert]
      exact ⟨by simp [h.1], ih h.2⟩

@[ext] structure Roster where
  reports : List Report
  nodup : (reports.map Report.id).Nodup
  deriving DecidableEq

namespace Roster

def empty : Roster := ⟨[], List.nodup_nil⟩

def insert (roster : Roster) (report : Report) : Roster :=
  ⟨upsert report roster.reports, nodup_ids_upsert report roster.nodup⟩

def ofList (reports : List Report) : Roster := reports.foldl insert empty

def clear (roster : Roster) : Roster := { roster with reports := [], nodup := List.nodup_nil }

def find? (roster : Roster) (id : FlarmId) : Option Report :=
  roster.reports.find? (fun r => r.id = id)

def size (roster : Roster) : Nat := roster.reports.length

def isEmpty (roster : Roster) : Bool := roster.reports.isEmpty

@[simp] theorem reports_empty : empty.reports = [] := rfl

@[simp] theorem reports_insert (roster : Roster) (report : Report) :
    (roster.insert report).reports = upsert report roster.reports := rfl

end Roster
end Thermals.Traffic
