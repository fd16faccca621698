import Mathlib.Data.List.Dedup
import Mathlib.Data.List.Perm.Subperm
import Thermals.Proofs.Time.Elapsed
import Thermals.Proofs.Detection.Coherence
import Thermals.Proofs.Detection.Target

namespace Thermals.Detection

open Time Traffic

theorem Track.isExpired_eq_false_iff (t : Track) (now : Instant) (maxAge : Span) :
    t.isExpired now maxAge = false ↔ t.phase ≠ .idle ∧
      (t.phase = .recentlyStopped → t.age now ≤ maxAge) ∧
      (t.phase = .potentiallyCircling ∨ t.phase = .circling → t.age now ≤ maxAge.double) := by
  unfold isExpired
  cases t.phase <;> simp [Span.not_lt]

theorem Track.kept_mono {t : Track} {now later : Instant} {shorter longer : Span} (le : now ≤ later)
    (wider : shorter ≤ longer) (kept : t.isExpired later shorter = false) :
    t.isExpired now longer = false := by
  have younger : t.age now ≤ t.age later := Instant.since_mono le t.updated
  rw [isExpired_eq_false_iff] at kept ⊢
  obtain ⟨active, stopped, busy⟩ := kept
  refine ⟨active, ?_, ?_⟩
  · intro phase
    exact Span.le_trans younger (Span.le_trans (stopped phase) wider)
  · intro phase
    exact Span.le_trans younger (Span.le_trans (busy phase) (Span.double_mono wider))

theorem Track.isRelevant_of_kept {t : Track} {now : Instant} {maxAge : Span}
    (kept : t.isExpired now maxAge = false) :
    t.isRelevant now maxAge = (t.phase = .circling || t.phase = .recentlyStopped) := by
  have fresh := ((t.isExpired_eq_false_iff now maxAge).mp kept).2.1
  unfold isRelevant
  cases phase : t.phase with
  | recentlyStopped => simp [fresh phase]
  | idle => rfl
  | potentiallyCircling => rfl
  | circling => rfl

namespace Detector

variable {config : Config} {ticks : List Tick} {tick : Tick} {id : FlarmId} {track : Track}

theorem kept_of_tracked (held : tracked config (ticks ++ [tick]) id = some track) :
    track.isExpired tick.time config.maxRecentlyStoppedAge = false := by
  rw [tracked_append_singleton, Track.next?, Option.filter_eq_some_iff] at held
  simpa using held.2

theorem published_eq_filter_tracked (config : Config) (ticks : List Tick) (id : FlarmId) :
    published config ticks id = (tracked config ticks id).filter
      fun track => track.phase = .circling || track.phase = .recentlyStopped := by
  cases ticks using List.reverseRecOn with
  | nil => rfl
  | append_singleton ticks tick =>
    rw [published_append_singleton]
    cases held : tracked config (ticks ++ [tick]) id with
    | none => rfl
    | some track => simp only [Option.filter_some, Track.isRelevant_of_kept (kept_of_tracked held)]

theorem coherent_of_tracked (held : tracked config ticks id = some track) : track.Coherent := by
  apply tracked_invariant (P := Track.Coherent) (Track.coherent_fresh id _) ?_ held
  intro track now report coherent
  exact (coherent.withId id).observe

theorem center_of_tracked (held : tracked config ticks id = some track)
    (confirmed : track.phase = .circling ∨ track.phase = .recentlyStopped) :
    track.center.isSome = true := (coherent_of_tracked held).confirmed confirmed

theorem sighting_of_tracked (held : tracked config ticks id = some track) :
    ∃ s ∈ sightings id ticks, s.time = track.updated := by
  induction ticks using List.reverseRecOn generalizing track with
  | nil => cases held
  | append_singleton ticks tick ih =>
    have active := ((track.isExpired_eq_false_iff _ _).mp (kept_of_tracked held)).1
    rw [sightings_append]
    rcases tracked_cases held with ⟨_, held⟩ | ⟨report, reported, step⟩
    · obtain ⟨s, member, time⟩ := ih held
      exact ⟨s, List.mem_append_left _ member, time⟩
    · have here : ⟨tick.time, report⟩ ∈ sightings id ticks ++ sightings id [tick] := by
        rw [sightings_reported reported]
        exact List.mem_append_right _ (List.mem_singleton_self _)
      cases Track.reaction step with
      | begins => exact ⟨_, here, rfl⟩
      | rests =>
        obtain ⟨s, member, time⟩ := ih (tracked_of_prior active)
        exact ⟨s, List.mem_append_left _ member, time⟩
      | waits => exact ⟨_, here, rfl⟩
      | confirms => exact ⟨_, here, rfl⟩
      | fails => exact absurd rfl active
      | continues => exact ⟨_, here, rfl⟩
      | stops => exact ⟨_, here, rfl⟩

theorem age_le_of_tracked (held : tracked config (ticks ++ [tick]) id = some track) :
    track.age tick.time ≤ config.maxEntryAge := by
  have kept := (track.isExpired_eq_false_iff _ _).mp (kept_of_tracked held)
  cases phase : track.phase with
  | idle => exact absurd phase kept.1
  | potentiallyCircling => exact kept.2.2 (Or.inl phase)
  | circling => exact kept.2.2 (Or.inr phase)
  | recentlyStopped => exact Span.le_trans (kept.2.1 phase) (Span.le_double _)

def recentIds (config : Config) (ticks : List Tick) (now : Instant) : List FlarmId :=
  ((ticks.filter fun tick => now.since tick.time ≤ config.maxEntryAge).flatMap
    fun tick => tick.roster.reports.map Report.id).dedup

theorem mem_recentIds {s : Sighting} {now : Instant} (member : s ∈ sightings id ticks)
    (young : now.since s.time ≤ config.maxEntryAge) : id ∈ recentIds config ticks now := by
  obtain ⟨tick, present, found⟩ := List.mem_filterMap.mp member
  obtain ⟨report, reported, rfl⟩ := Option.map_eq_some_iff.mp found
  rw [recentIds, List.mem_dedup, List.mem_flatMap]
  refine ⟨tick, List.mem_filter.mpr ⟨present, by simpa using young⟩, ?_⟩
  have same : report.id = id := by simpa using List.find?_some reported
  rw [← same]
  exact List.mem_map_of_mem (List.mem_of_find?_eq_some reported)

theorem size_le_recentIds (config : Config) (ticks : List Tick) (tick : Tick) :
    (session config (ticks ++ [tick])).1.table.size ≤
      (recentIds config (ticks ++ [tick]) tick.time).length := by
  have subset : (session config (ticks ++ [tick])).1.table.ids ⊆
      recentIds config (ticks ++ [tick]) tick.time := by
    intro id member
    obtain ⟨track, held⟩ := (Table.mem_ids_iff _ _).mp member
    obtain ⟨s, seen, time⟩ := sighting_of_tracked held
    have young := age_le_of_tracked held
    rw [Track.age, ← time] at young
    exact mem_recentIds seen young
  have length := ((Table.nodup_ids _).subperm subset).length_le
  rwa [Table.ids, List.length_map] at length

/-- After a tick only what is in use is kept, and the picture shows just the confirmed part of it. -/
theorem process_shows_confirmed (config : Config) (ticks : List Tick) (picture : Picture)
    (now : Instant) :
    let d := (session config ticks).1
    let after := d.process picture now
    let all := ticks ++ [⟨now, picture.roster⟩]
    (∀ id track, after.1.table.get? id = some track →
      track.phase ≠ .idle ∧
      (track.phase = .recentlyStopped → track.age now ≤ config.maxRecentlyStoppedAge) ∧
      (track.phase = .potentiallyCircling ∨ track.phase = .circling →
        track.age now ≤ config.maxEntryAge) ∧
      ∃ s ∈ sightings id all, s.time = track.updated) ∧
    after.1.table.size ≤ (recentIds config all now).length ∧
    after.2.thermals = after.1.table.filter
      (fun track => track.phase = .circling || track.phase = .recentlyStopped) ∧
    (∀ id track, after.2.thermals.get? id = some track →
      track.id = id ∧ track.center.isSome = true) ∧
    ∀ shown, d.process { picture with thermals := shown } now = after := by
  intro d after all
  have state : after.1 = (session config all).1 := by
    rw [session_append_singleton]
    rfl
  have shown : after.2.thermals = after.1.table.filter
      (fun track => track.phase = .circling || track.phase = .recentlyStopped) := by
    have relevant : after.2.thermals = after.1.relevant now := rfl
    have settings : after.1.config = config := by rw [state, session_fst, config_run]
    rw [relevant, Detector.relevant, Table.relevant, settings]
    apply Table.filter_congr
    intro id track held
    rw [state] at held
    have kept := kept_of_tracked held
    exact Track.isRelevant_of_kept kept
  refine ⟨?_, ?_, shown, ?_, fun _ => rfl⟩
  · intro id track held
    rw [state] at held
    obtain ⟨active, stopped, busy⟩ := (track.isExpired_eq_false_iff _ _).mp (kept_of_tracked held)
    exact ⟨active, stopped, busy, sighting_of_tracked held⟩
  · rw [state]
    exact size_le_recentIds config ticks ⟨now, picture.roster⟩
  · intro id track found
    rw [shown, state, Table.get?_filter, Option.filter_eq_some_iff] at found
    obtain ⟨held, confirmed⟩ := found
    exact ⟨id_of_tracked held, center_of_tracked held (by simpa using confirmed)⟩

end Detector
end Thermals.Detection
