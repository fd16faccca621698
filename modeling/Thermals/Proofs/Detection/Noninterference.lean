import Thermals.Detection.Call
import Thermals.Proofs.Detection.Evidence
import Thermals.Proofs.Detection.Known
import Thermals.Proofs.Traffic.Roster

namespace Thermals

open Time Traffic

/-- Reports of one target in one place that turns as fast, to whichever side. -/
structure Traffic.Report.Alike (a b : Report) : Prop where
  id : a.id = b.id
  location : a.location = b.location
  turnRate : a.turnRate.map Float.abs = b.turnRate.map Float.abs

theorem Traffic.Report.Alike.rates {a b : Report} (alike : a.Alike b) :
    (a.turnRate = none ∧ b.turnRate = none) ∨
      ∃ rate other, a.turnRate = some rate ∧ b.turnRate = some other ∧ rate.abs = other.abs := by
  have turnRate := alike.turnRate
  cases rated : b.turnRate with
  | none =>
    rw [rated] at turnRate
    exact Or.inl ⟨Option.map_eq_none_iff.mp turnRate, rfl⟩
  | some other =>
    rw [rated] at turnRate
    obtain ⟨rate, found, same⟩ := Option.map_eq_some_iff.mp turnRate
    exact Or.inr ⟨rate, other, found, rfl, same⟩

namespace Detection

variable {config : Config} {now : Instant} {a b : Report}

theorem meetsTurn_congr {rate other : Float} (same : rate.abs = other.abs) :
    meetsTurn config rate = meetsTurn config other := by
  rw [meetsTurn, meetsTurn, same]

theorem turns_congr (alike : a.Alike b) : turns config a = turns config b := by
  rcases alike.rates with ⟨unrated, other_unrated⟩ | ⟨rate, other, rated, other_rated, same⟩
  · rw [turns, turns, alike.location, unrated, other_unrated]
  · rw [turns, turns, alike.location, rated, other_rated, Option.any_some, Option.any_some,
      meetsTurn_congr same]

theorem noted_congr (alike : a.Alike b) (history : Window Geo.Point) :
    noted history a = noted history b := by
  rcases alike.rates with ⟨unrated, other_unrated⟩ | ⟨rate, other, rated, other_rated, -⟩
  · rw [noted, noted, alike.location, unrated, other_unrated]
  · rw [noted, noted, alike.location, rated, other_rated]
    cases b.location <;> rfl

theorem circles_congr (alike : a.Alike b) (history : Window Geo.Point) :
    circles config history a = circles config history b := by
  rw [circles, circles, turns_congr alike, noted_congr alike]

structure Track.Twin (s t : Track) : Prop where
  id : s.id = t.id
  phase : s.phase = t.phase
  center : s.center = t.center
  updated : s.updated = t.updated
  started : s.started = t.started
  history : s.history = t.history

namespace Track

variable {s t : Track}

theorem Twin.refl (t : Track) : t.Twin t := ⟨rfl, rfl, rfl, rfl, rfl, rfl⟩

theorem Twin.isExpired_eq (twin : s.Twin t) (now : Instant) (maxAge : Span) :
    s.isExpired now maxAge = t.isExpired now maxAge := by
  rw [isExpired, isExpired, age, age, twin.phase, twin.updated]

theorem Twin.observe (twin : s.Twin t) (alike : a.Alike b) :
    (s.observe config now a).Twin (t.observe config now b) := by
  rcases t.dormant_or_circling with other_dormant | other_circling
  · have dormant : s.phase = .idle ∨ s.phase = .recentlyStopped := by rwa [twin.phase]
    cases turning : turns config b with
    | true =>
      rw [observe_begins dormant ((turns_congr alike).trans turning),
        observe_begins other_dormant turning, noted_congr alike, twin.history]
      exact ⟨twin.id, rfl, rfl, rfl, rfl, rfl⟩
    | false =>
      rw [observe_dormant dormant ((turns_congr alike).trans turning),
        observe_dormant other_dormant turning, noted_congr alike, twin.history]
      exact { twin with history := rfl }
  · have circling : s.phase = .potentiallyCircling ∨ s.phase = .circling := by rwa [twin.phase]
    have same : circles config s.history a = circles config t.history b := by
      rw [twin.history, circles_congr alike]
    cases hit : circles config t.history b with
    | true =>
      rw [observe_circles circling (same.trans hit) rfl, observe_circles other_circling hit rfl,
        noted_congr alike, alike.location, twin.phase, twin.history, twin.started, twin.center]
      exact ⟨twin.id, rfl, rfl, rfl, rfl, rfl⟩
    | false =>
      rcases other_circling with other_phase | other_phase
      · have phase := twin.phase.trans other_phase
        rw [observe_fails phase (same.trans hit), observe_fails other_phase hit]
        exact ⟨twin.id, rfl, rfl, twin.updated, twin.started, congrArg Window.clear twin.history⟩
      · have phase := twin.phase.trans other_phase
        rw [observe_stops phase (same.trans hit), observe_stops other_phase hit, noted_congr alike,
          twin.history]
        exact ⟨twin.id, rfl, twin.center, rfl, twin.started, rfl⟩

theorem Twin.heard (twin : s.Twin t) {x y : Option Report} (alike : Option.Rel Report.Alike x y) :
    (s.heard config now x).Twin (t.heard config now y) := by
  cases alike with
  | none => exact twin
  | some alike => exact twin.observe alike

theorem Twin.swept (twin : s.Twin t) : (s.swept config now).Twin (t.swept config now) := by
  rw [Track.swept, Track.swept, twin.isExpired_eq, twin.id]
  split
  · exact .refl _
  · exact twin

theorem transition_congr {turnRate other : Float} (same : turnRate.abs = other.abs)
    (location : Geo.Point) (climbRate : Option Float) :
    t.transition config now location turnRate climbRate =
      t.transition config now location other climbRate := by
  rw [transition, transition, meetsTurn_congr same]

theorem observe_congr (alike : a.Alike b) (climbRate : a.climbRate = b.climbRate) :
    t.observe config now a = t.observe config now b := by
  rcases alike.rates with ⟨unrated, other_unrated⟩ | ⟨rate, other, rated, other_rated, same⟩
  · rw [observe, observe, alike.location, climbRate, unrated, other_unrated]
  · rw [observe, observe, alike.location, climbRate, rated, other_rated]
    cases b.location with
    | none => rfl
    | some location => exact transition_congr same location b.climbRate

theorem heard_congr {x y : Option Report} (alike : Option.Rel Report.Alike x y)
    (climbRate : x.bind Report.climbRate = y.bind Report.climbRate) :
    t.heard config now x = t.heard config now y := by
  cases alike with
  | none => rfl
  | some alike => exact observe_congr alike climbRate

end Track

structure Call.Alike (first second : Call) : Prop where
  time : first.time = second.time
  heard (id : FlarmId) : Option.Rel Report.Alike (first.picture.roster.find? id)
    (second.picture.roster.find? id)

def Call.SameClimbs (first second : Call) : Prop :=
  ∀ id, (first.picture.roster.find? id).bind Report.climbRate =
    (second.picture.roster.find? id).bind Report.climbRate

namespace Detector

theorem foldl_receive (now : Instant) (last : Roster) (reports : List Report)
    (state : Detector × List String) :
    (reports.foldl (receive now last) state).1 =
      reports.foldl (fun d report => d.update now report) state.1 := by
  induction reports generalizing state with
  | nil => rfl
  | cons report rest ih => exact ih (receive now last state report)

theorem handle_eq_process (d : Detector) (call : Call) :
    (d.handle call).1 = d.process (.ofRoster call.picture.roster) call.time := by
  have seen := foldl_receive call.time call.last.roster call.picture.roster.reports (d, [])
  simp only [handle, seen]
  rfl

theorem respond_eq_session (config : Config) (calls : List Call) :
    respond config calls = session config (calls.map Call.tick) := by
  induction calls using List.reverseRecOn with
  | nil => rfl
  | append_singleton calls call ih =>
    have step : respond config (calls ++ [call]) = ((respond config calls).1.handle call).1 := by
      rw [respond, List.foldl_append]
      rfl
    rw [step, handle_eq_process, ih, List.map_append, List.map_singleton, session_append_singleton]
    rfl

variable {first second : List Call}

theorem twin_of_alike (alike : List.Forall₂ Call.Alike first second) (config : Config)
    (id : FlarmId) :
    (known config (first.map Call.tick) id).Twin (known config (second.map Call.tick) id) := by
  have matched : List.Forall₂ (fun a b : Tick => a.time = b.time ∧
      Option.Rel Report.Alike (a.roster.find? id) (b.roster.find? id))
      (first.map Call.tick) (second.map Call.tick) := by
    rw [List.forall₂_map_left_iff, List.forall₂_map_right_iff]
    exact alike.imp fun a b same => ⟨same.time, same.heard id⟩
  apply known_related Track.Twin (.refl _) ?_ matched
  intro s t tick counterpart same twin
  rw [same.1]
  exact (twin.heard same.2).swept

theorem known_eq_of_alike (alike : List.Forall₂ Call.Alike first second)
    (climbs : List.Forall₂ Call.SameClimbs first second) (config : Config) (id : FlarmId) :
    known config (first.map Call.tick) id = known config (second.map Call.tick) id := by
  have matched : List.Forall₂ (fun a b : Tick => a.time = b.time ∧
      Option.Rel Report.Alike (a.roster.find? id) (b.roster.find? id) ∧
      (a.roster.find? id).bind Report.climbRate = (b.roster.find? id).bind Report.climbRate)
      (first.map Call.tick) (second.map Call.tick) := by
    rw [List.forall₂_map_left_iff, List.forall₂_map_right_iff]
    exact List.Forall₂.mp (fun a b same climb => ⟨same.time, same.heard id, climb id⟩) alike climbs
  apply known_related Eq rfl ?_ matched
  intro s t tick counterpart same equal
  obtain ⟨time, heard, climb⟩ := same
  rw [time, equal, Track.heard_congr heard climb]

/-- What is told beside the ids, the places and how fast targets turn changes no detection, and nothing
but climb rates changes what is shown of it. -/
theorem same_detection_of_alike (alike : List.Forall₂ Call.Alike first second) (config : Config) :
    let a := respond config first
    let b := respond config second
    (∀ id, Option.Rel Track.Twin (a.1.table.get? id) (b.1.table.get? id)) ∧
      (∀ id, Option.Rel Track.Twin (a.2.thermals.get? id) (b.2.thermals.get? id)) ∧
      (List.Forall₂ Call.SameClimbs first second →
        a.1.table = b.1.table ∧ a.2.thermals = b.2.thermals) := by
  intro a b
  have twins (id : FlarmId) := twin_of_alike alike config id
  have related (id : FlarmId) := tracked_rel_of_known (twins id).phase fun _ => twins id
  rw [show a = session config (first.map Call.tick) from respond_eq_session config first,
    show b = session config (second.map Call.tick) from respond_eq_session config second]
  refine ⟨fun id => (related id).1, fun id => (related id).2, ?_⟩
  intro climbs
  have same (id : FlarmId) := known_eq_of_alike alike climbs config id
  constructor
  · apply Table.eq_of_get?
    intro id
    change tracked config _ id = tracked config _ id
    rw [tracked_eq_filter_known, tracked_eq_filter_known, same]
  · apply Table.eq_of_get?
    intro id
    change published config _ id = published config _ id
    rw [published_eq_filter_known, published_eq_filter_known, same]

theorem same_detection_of_left_turns :
    let right (seconds : Int) : Call := {
      time := .ofSeconds seconds
      picture := .ofRoster (.ofList [Flight.sighted Flight.target 20.0 0.5])
      last := .empty }
    let left (seconds : Int) : Call := {
      time := .ofSeconds seconds
      picture := {
        roster := .ofList [
          { Flight.sighted Flight.target (-20.0) 2.5 with name := some "D-KXYZ" }]
        thermals := .collect [(Flight.other, .fresh Flight.other 10)] }
      last := .ofRoster (.ofList [Flight.sighted Flight.target 3.0 0.5]) }
    let first := [right 0, right 2]
    let second := [left 0, left 2]
    List.Forall₂ Call.Alike first second ∧
      ∃ shown other, (respond Flight.settings first).2.thermals.get? Flight.target = some shown ∧
        (respond Flight.settings second).2.thermals.get? Flight.target = some other ∧
        shown.Twin other ∧ shown.climb.samples = 1 ∧ shown.climb ≠ other.climb := by
  intro right left first second
  have turns : Report.Alike (Flight.sighted Flight.target 20.0 0.5)
      { Flight.sighted Flight.target (-20.0) 2.5 with name := some "D-KXYZ" } :=
    ⟨rfl, rfl, by decide +kernel⟩
  have alike (seconds : Int) : (right seconds).Alike (left seconds) := by
    refine ⟨rfl, ?_⟩
    intro id
    have found (report : Report) : (Roster.ofList [report]).find? id =
        if report.id = id then some report else none := Roster.find?_insert .empty report id
    rw [show (right seconds).picture.roster.find? id = _ from found _,
      show (left seconds).picture.roster.find? id = _ from found _, ← turns.id]
    split
    · exact .some turns
    · exact .none
  have matched : List.Forall₂ Call.Alike first second := .cons (alike 0) (.cons (alike 2) .nil)
  refine ⟨matched, ?_⟩
  obtain ⟨-, related, -⟩ := same_detection_of_alike matched Flight.settings
  have twins := related Flight.target
  have climbs : ((respond Flight.settings first).2.thermals.get? Flight.target).map Track.climb =
      some (Climb.none.add 0.5) := by decide +kernel
  have other_climbs : ((respond Flight.settings second).2.thermals.get? Flight.target).map
      Track.climb = some (Climb.none.add 2.5) := by decide +kernel
  obtain ⟨shown, found, climb⟩ := Option.map_eq_some_iff.mp climbs
  obtain ⟨other, other_found, other_climb⟩ := Option.map_eq_some_iff.mp other_climbs
  rw [found, other_found] at twins
  cases twins with
  | some twin =>
    refine ⟨shown, other, found, other_found, twin, ?_, ?_⟩
    · rw [climb]
      rfl
    · rw [climb, other_climb]
      decide +kernel

end Detector
end Detection
end Thermals
