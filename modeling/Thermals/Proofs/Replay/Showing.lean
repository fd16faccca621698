import Thermals.Replay
import Thermals.Proofs.Detection.Publication

namespace Thermals

open Time Traffic Detection

namespace Detection.Detector

variable {config : Config} {ticks : List Tick} {id : FlarmId} {track : Track}

theorem shown_append_singleton (d : Detector) (ticks : List Tick) (tick : Tick) :
    d.shown (ticks ++ [tick]) =
      d.shown ticks ++ [(tick, ((ticks.foldl advance d).advance tick).relevant tick.time)] := by
  induction ticks generalizing d with
  | nil => rfl
  | cons first rest ih =>
    rw [List.cons_append, shown, ih]
    rfl

theorem id_of_published (found : published config ticks id = some track) : track.id = id := by
  rw [published_eq_filter_tracked, Option.filter_eq_some_iff] at found
  exact id_of_tracked found.1

theorem mem_thermals {thermals : Table} (shown : thermals = (session config ticks).2.thermals) :
    (id, track) ∈ thermals.entries ↔ published config ticks id = some track := by
  rw [shown, published, Table.get?_eq_some_iff]

theorem mem_tracks_thermals {thermals : Table}
    (shown : thermals = (session config ticks).2.thermals) :
    track ∈ thermals.tracks ↔ published config ticks track.id = some track := by
  rw [Table.tracks, List.mem_map]
  constructor
  · intro listed
    obtain ⟨⟨id, track⟩, member, rfl⟩ := listed
    have found := (mem_thermals shown).mp member
    rwa [id_of_published found]
  · intro found
    exact ⟨(track.id, track), (mem_thermals shown).mpr found, rfl⟩

theorem tracks_thermals_ascending {thermals : Table}
    (shown : thermals = (session config ticks).2.thermals) :
    thermals.tracks.Pairwise fun a b => a.id < b.id := by
  rw [Table.tracks, List.pairwise_map]
  apply thermals.ascending.imp_of_mem
  intro a b a_member b_member less
  rwa [id_of_published ((mem_thermals shown).mp a_member),
    id_of_published ((mem_thermals shown).mp b_member)]

end Detection.Detector

namespace Replay

/-- Ticks in the order of their times, each with all that is published after it in the order of the
ids. -/
inductive Shows (config : Config) : List (Tick × List Track) → Prop
  | nil : Shows config []
  | tick {shown : List (Tick × List Track)} {tick : Tick} {tracks : List Track}
      (earlier : Shows config shown) (rising : ∀ e ∈ shown, e.1.time < tick.time)
      (ascending : tracks.Pairwise fun a b => a.id < b.id)
      (published : ∀ track, track ∈ tracks ↔
        Detector.published config (shown.map Prod.fst ++ [tick]) track.id = some track) :
      Shows config (shown ++ [(tick, tracks)])

theorem eq_of_ascending {tracks others : List Track}
    (ascending : tracks.Pairwise fun a b => a.id < b.id)
    (others_ascending : others.Pairwise fun a b => a.id < b.id)
    (same : ∀ track, track ∈ tracks ↔ track ∈ others) : tracks = others := by
  have once {tracks : List Track} (ascending : tracks.Pairwise fun a b => a.id < b.id) :
      tracks.Nodup := by
    apply ascending.imp
    intro a b less same
    rw [same] at less
    exact Nat.lt_irrefl _ less
  have reordered : tracks.Perm others :=
    (List.perm_ext_iff_of_nodup (once ascending) (once others_ascending)).mpr same
  apply reordered.eq_of_pairwise ?_ ascending others_ascending
  intro a b _ _ less greater
  exact absurd greater (Nat.lt_asymm less)

theorem Shows.unique {config : Config} {shown others : List (Tick × List Track)}
    (shows : Shows config shown) (others_shows : Shows config others)
    (same : shown.map Prod.fst = others.map Prod.fst) : shown = others := by
  induction shows generalizing others with
  | nil => exact (List.map_eq_nil_iff.mp same.symm).symm
  | tick _ _ ascending published ih =>
    cases others_shows with
    | nil => simp at same
    | tick earlier _ others_ascending others_published =>
      rw [List.map_append, List.map_append] at same
      obtain ⟨before, last⟩ := List.append_inj' same rfl
      obtain rfl := List.singleton_inj.mp last
      obtain rfl := ih earlier before
      have alike := eq_of_ascending ascending others_ascending fun track =>
        (published track).trans (others_published track).symm
      rw [alike]

def shownTracks (config : Config) (ticks : List Tick) : List (Tick × List Track) :=
  ((Detector.start config).shown ticks).map fun (tick, thermals) => (tick, thermals.tracks)

theorem shownTracks_append_singleton (config : Config) (ticks : List Tick) (tick : Tick) :
    shownTracks config (ticks ++ [tick]) = shownTracks config ticks ++
      [(tick, (Detector.session config (ticks ++ [tick])).2.thermals.tracks)] := by
  have state := Detector.session_fst config ticks
  rw [Detector.run] at state
  rw [shownTracks, Detector.shown_append_singleton, List.map_append,
    Detector.session_append_singleton, ← state]
  rfl

theorem map_fst_shownTracks (config : Config) (ticks : List Tick) :
    (shownTracks config ticks).map Prod.fst = ticks := by
  induction ticks using List.reverseRecOn with
  | nil => rfl
  | append_singleton ticks tick ih =>
    rw [shownTracks_append_singleton, List.map_append, ih]
    rfl

theorem shows_shownTracks (config : Config) {ticks : List Tick}
    (rising : (ticks.map Tick.time).Pairwise (· < ·)) :
    Shows config (shownTracks config ticks) := by
  induction ticks using List.reverseRecOn with
  | nil => exact .nil
  | append_singleton ticks tick ih =>
    rw [List.map_append, List.pairwise_append] at rising
    obtain ⟨rising, -, before⟩ := rising
    rw [shownTracks_append_singleton]
    apply Shows.tick (ih rising) ?_ (Detector.tracks_thermals_ascending rfl)
    · intro track
      rw [map_fst_shownTracks]
      exact Detector.mem_tracks_thermals rfl
    · intro e member
      have listed : e.1 ∈ ticks := by
        rw [← map_fst_shownTracks config ticks]
        exact List.mem_map_of_mem member
      exact before _ (List.mem_map_of_mem listed) _ (by simp)

theorem flatMap_shownTracks (config : Config) (ticks : List Tick)
    (text : Tick × List Track → List String) :
    (shownTracks config ticks).flatMap text =
      ((Detector.start config).shown ticks).flatMap fun e => text (e.1, e.2.tracks) := by
  rw [shownTracks, List.flatMap_map]

theorem lines_eq_flatMap_shownTracks (json : Bool) (config : Config) (ticks : List Tick) :
    lines json config ticks =
      (shownTracks config ticks).flatMap fun (tick, tracks) => tracks.map (line json tick.time) := by
  rw [lines, flatMap_shownTracks]

end Replay
end Thermals
