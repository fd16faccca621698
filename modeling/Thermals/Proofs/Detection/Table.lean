import Mathlib.Data.List.Induction
import Mathlib.Data.List.Nodup
import Thermals.Detection.Table
import Thermals.Proofs.Keyed

namespace Thermals.Detection

open Time Traffic

theorem find?_place (id key : FlarmId) (track : Track) (entries : List (FlarmId × Track)) :
    (place id track entries).find? (fun e => e.1 = key) =
      if key = id then some (id, track) else entries.find? (fun e => e.1 = key) := by
  induction entries with
  | nil =>
    by_cases same : id = key
    · simp [place, same]
    · simp [place, same, Ne.symm same]
  | cons e rest ih =>
    obtain ⟨k, held⟩ := e
    unfold place
    split
    · by_cases same : id = key
      · simp [same]
      · simp [same, Ne.symm same]
    · split
      · rename_i equal
        subst equal
        by_cases same : id = key
        · simp [same]
        · simp [same, Ne.symm same]
      · rename_i differ
        by_cases here : k = key
        · have other : key ≠ id := fun e => differ (here.trans e).symm
          simp [here, other]
        · simp only [List.find?_cons, here, decide_false, ih]

theorem Ascending.nodup_keys {entries : List (FlarmId × Track)} (h : Ascending entries) :
    (entries.map Prod.fst).Nodup := by
  apply (Ascending.keys.mp h).imp
  intro a b less same
  rw [same, FlarmId.lt_def] at less
  exact Nat.lt_irrefl _ less

namespace Table

theorem get?_eq_some_iff (t : Table) (id : FlarmId) (track : Track) :
    t.get? id = some track ↔ (id, track) ∈ t.entries := by
  simp only [get?, Option.map_eq_some_iff, Keyed.find?_eq_some_iff t.ascending.nodup_keys]
  constructor
  · intro found
    obtain ⟨e, ⟨member, rfl⟩, rfl⟩ := found
    exact member
  · intro member
    exact ⟨(id, track), ⟨member, rfl⟩, rfl⟩

theorem get?_put (t : Table) (id key : FlarmId) (track : Track) :
    (t.put id track).get? key = if key = id then some track else t.get? key := by
  simp only [get?, put, find?_place]
  split <;> rfl

theorem get?_filter (t : Table) (keep : Track → Bool) (id : FlarmId) :
    (t.filter keep).get? id = (t.get? id).filter keep := by
  ext track
  rw [Option.filter_eq_some_iff, get?_eq_some_iff, get?_eq_some_iff]
  exact List.mem_filter

theorem get?_sweep (t : Table) (now : Instant) (maxAge : Span) (id : FlarmId) :
    (t.sweep now maxAge).get? id =
      (t.get? id).filter fun track => !track.isExpired now maxAge := t.get?_filter _ id

theorem get?_relevant (t : Table) (now : Instant) (maxAge : Span) (id : FlarmId) :
    (t.relevant now maxAge).get? id =
      (t.get? id).filter fun track => track.isRelevant now maxAge := t.get?_filter _ id

theorem mem_ids_iff (t : Table) (id : FlarmId) : id ∈ t.ids ↔ ∃ track, t.get? id = some track := by
  simp only [ids, get?_eq_some_iff, List.mem_map]
  constructor
  · intro listed
    obtain ⟨e, member, rfl⟩ := listed
    exact ⟨e.2, member⟩
  · intro held
    obtain ⟨track, member⟩ := held
    exact ⟨(id, track), member, rfl⟩

theorem nodup_ids (t : Table) : t.ids.Nodup := t.ascending.nodup_keys

theorem filter_congr {t : Table} {keep other : Track → Bool}
    (alike : ∀ id track, t.get? id = some track → keep track = other track) :
    t.filter keep = t.filter other := by
  apply Table.ext
  apply List.filter_congr
  intro e member
  exact alike e.1 e.2 ((t.get?_eq_some_iff e.1 e.2).mpr member)

theorem eq_of_get? {t u : Table} (alike : ∀ id, t.get? id = u.get? id) : t = u := by
  have same : ∀ e, e ∈ t.entries ↔ e ∈ u.entries := by
    intro e
    rw [← get?_eq_some_iff t e.1 e.2, ← get?_eq_some_iff u e.1 e.2, alike]
  have reordered : t.entries.Perm u.entries := by
    apply (List.perm_ext_iff_of_nodup ?_ ?_).mpr same
    · exact List.Nodup.of_map Prod.fst t.nodup_ids
    · exact List.Nodup.of_map Prod.fst u.nodup_ids
  apply Table.ext
  apply reordered.eq_of_pairwise ?_ t.ascending u.ascending
  intro a b _ _ less greater
  exact absurd less (Nat.lt_asymm greater)

def collect (entries : List (FlarmId × Track)) : Table :=
  entries.foldl (fun t e => t.put e.1 e.2) empty

theorem get?_collect_eq_some_iff {entries : List (FlarmId × Track)}
    (nodup : (entries.map Prod.fst).Nodup) (id : FlarmId) (track : Track) :
    (collect entries).get? id = some track ↔ (id, track) ∈ entries := by
  induction entries using List.reverseRecOn with
  | nil => simp [collect, get?, empty]
  | append_singleton entries e ih =>
    obtain ⟨key, held⟩ := e
    rw [List.map_append, List.nodup_append] at nodup
    obtain ⟨nodup, -, apart⟩ := nodup
    have put : collect (entries ++ [(key, held)]) = (collect entries).put key held := by
      rw [collect, List.foldl_append]
      rfl
    rw [put, get?_put, List.mem_append, List.mem_singleton, Prod.mk.injEq, ← ih nodup]
    by_cases here : id = key
    · subst here
      rw [if_pos rfl, Option.some.injEq]
      constructor
      · intro same
        exact Or.inr ⟨rfl, same.symm⟩
      · intro found
        rcases found with earlier | ⟨-, same⟩
        · have listed := List.mem_map_of_mem (f := Prod.fst) ((ih nodup).mp earlier)
          exact absurd rfl (apart id listed id (List.mem_singleton_self _))
        · exact same.symm
    · simp [here]

theorem collect_perm {t : Table} {entries : List (FlarmId × Track)}
    (reordered : entries.Perm t.entries) : collect entries = t := by
  have nodup : (entries.map Prod.fst).Nodup := (reordered.map Prod.fst).nodup_iff.mpr t.nodup_ids
  apply eq_of_get?
  intro id
  ext track
  rw [get?_collect_eq_some_iff nodup, get?_eq_some_iff, reordered.mem_iff]

end Table
end Thermals.Detection
