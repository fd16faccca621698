import Mathlib.Data.List.Basic
import Mathlib.Data.List.Induction

namespace Thermals.Keyed

variable {α κ : Type} [DecidableEq κ] {key : α → κ}

theorem find?_eq_some_iff {items : List α} (nodup : (items.map key).Nodup) (k : κ) (a : α) :
    items.find? (fun item => key item = k) = some a ↔ a ∈ items ∧ key a = k := by
  induction items with
  | nil => simp
  | cons head rest ih =>
    obtain ⟨once, nodup⟩ := List.nodup_cons.mp nodup
    by_cases here : key head = k
    · simp only [List.find?_cons, here, decide_true, Option.some.injEq, List.mem_cons]
      constructor
      · intro equal
        subst equal
        exact ⟨Or.inl rfl, here⟩
      · intro found
        obtain ⟨equal | member, same⟩ := found
        · exact equal.symm
        · have listed : key head ∈ rest.map key := by
            rw [here, ← same]
            exact List.mem_map_of_mem member
          exact absurd listed once
    · simp only [List.find?_cons, here, decide_false, ih nodup, List.mem_cons]
      constructor
      · intro found
        exact ⟨Or.inr found.1, found.2⟩
      · intro found
        obtain ⟨rfl | member, same⟩ := found
        · exact absurd same here
        · exact ⟨member, same⟩

theorem find?_perm {items others : List α} (nodup : (items.map key).Nodup)
    (reordered : others.Perm items) (k : κ) :
    others.find? (fun item => key item = k) = items.find? (fun item => key item = k) := by
  have others_nodup : (others.map key).Nodup := (reordered.map key).nodup_iff.mpr nodup
  ext a
  rw [find?_eq_some_iff nodup, find?_eq_some_iff others_nodup, reordered.mem_iff]

theorem eraseDups_append_singleton [DecidableEq α] (items : List α) (a : α) :
    (items ++ [a]).eraseDups = if a ∈ items then items.eraseDups else items.eraseDups ++ [a] := by
  rw [List.eraseDups_append]
  by_cases listed : a ∈ items <;> simp [List.removeAll, List.eraseDups_cons, listed]

theorem pairwise_eraseDups [DecidableEq α] (items : List α) :
    items.eraseDups.Pairwise fun a b => items.idxOf a < items.idxOf b := by
  induction items using List.reverseRecOn with
  | nil => exact List.Pairwise.nil
  | append_singleton items a ih =>
    have earlier : items.eraseDups.Pairwise fun b c =>
        (items ++ [a]).idxOf b < (items ++ [a]).idxOf c := by
      apply ih.imp_of_mem
      intro b c first second less
      rw [List.mem_eraseDups] at first second
      rwa [List.idxOf_append_of_mem first, List.idxOf_append_of_mem second]
    rw [eraseDups_append_singleton]
    split
    · exact earlier
    · rename_i unlisted
      rw [List.pairwise_append]
      refine ⟨earlier, List.pairwise_singleton _ _, ?_⟩
      intro b first c last
      rw [List.mem_singleton.mp last, List.idxOf_append_of_mem (List.mem_eraseDups.mp first),
        List.idxOf_append_of_notMem unlisted]
      have less := List.idxOf_lt_length_of_mem (List.mem_eraseDups.mp first)
      omega

end Thermals.Keyed
