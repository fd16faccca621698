import Mathlib.Data.List.DropRight
import Mathlib.Data.List.Induction
import Thermals.Window

namespace Thermals.Window

variable {α : Type}

theorem room_pos (capacity : Nat) : 0 < max capacity 1 := by omega

theorem length_rtake (items : List α) (n : Nat) : (items.rtake n).length = min n items.length := by
  rw [List.rtake, List.length_drop]
  omega

/-- The window of the last elements of a sequence, as many as there is room for. -/
def last (capacity : Nat) (items : List α) : Window α where
  capacity := max capacity 1
  items := items.rtake (max capacity 1)
  capacity_pos := room_pos capacity
  length_le := by
    rw [List.rtake, List.length_drop]
    omega

theorem tail_rtake_succ (items : List α) (n : Nat) (long : n + 1 ≤ items.length) :
    (items.rtake (n + 1)).tail = items.rtake n := by
  have next : items.length - (n + 1) + 1 = items.length - n := by omega
  rw [List.rtake, List.tail_drop, next, List.rtake]

theorem rtake_eq_self (items : List α) (n : Nat) (short : items.length ≤ n) :
    items.rtake n = items := by
  have zero : items.length - n = 0 := by omega
  rw [List.rtake, zero, List.drop_zero]

theorem kept_last (capacity : Nat) (items : List α) :
    (last capacity items).kept = items.rtake (max capacity 1 - 1) := by
  obtain ⟨n, room⟩ : ∃ n, max capacity 1 = n + 1 := ⟨max capacity 1 - 1, by omega⟩
  simp only [kept, last, room, length_rtake, Nat.add_sub_cancel]
  by_cases long : n + 1 ≤ items.length
  · rw [if_pos (by omega), tail_rtake_succ items n long]
  · rw [if_neg (by omega), rtake_eq_self items (n + 1) (by omega), rtake_eq_self items n (by omega)]

theorem last_nil (capacity : Nat) : last capacity ([] : List α) = empty capacity := by
  apply Window.ext
  · rfl
  · exact List.rtake_nil _

theorem push_last (capacity : Nat) (items : List α) (a : α) :
    (last capacity items).push a = last capacity (items ++ [a]) := by
  apply Window.ext
  · rfl
  · have room : max capacity 1 = max capacity 1 - 1 + 1 := by omega
    rw [items_push, kept_last]
    calc items.rtake (max capacity 1 - 1) ++ [a]
        = (items ++ [a]).rtake (max capacity 1 - 1 + 1) := (List.rtake_concat_succ ..).symm
      _ = (last capacity (items ++ [a])).items := by rw [← room]; rfl

theorem items_ne_nil (w : Window α) (nonempty : 0 < w.size) : w.items ≠ [] :=
  List.length_pos_iff.mp nonempty

theorem exists_oldest (w : Window α) (nonempty : 0 < w.size) : ∃ a, w.oldest? = some a :=
  Option.isSome_iff_exists.mp (List.isSome_head?.mpr (w.items_ne_nil nonempty))

theorem ofList_eq_last (capacity : Nat) (items : List α) : ofList capacity items = last capacity items := by
  induction items using List.reverseRecOn with
  | nil => exact (last_nil capacity).symm
  | append_singleton items a ih => rw [ofList, List.foldl_append, ← ofList, ih, List.foldl_cons,
      List.foldl_nil, push_last]

theorem two_le_size_push {w : Window α} (room : 2 ≤ w.capacity)
    (nonempty : w.items ≠ []) (a : α) : 2 ≤ (w.push a).size := by
  have pos := List.length_pos_iff.mpr nonempty
  have kept : 1 ≤ w.kept.length := by
    unfold Window.kept
    split
    · rw [List.length_tail]
      omega
    · exact pos
  rw [Window.size, Window.items_push, List.length_append, List.length_singleton]
  omega

theorem clear_push (w : Window α) (a : α) : (w.push a).clear = w.clear := rfl

theorem clear_congr {w v : Window α} (same : w.capacity = v.capacity) : w.clear = v.clear :=
  Window.ext same rfl

theorem clear_eq_last_nil (w : Window α) (capacity : Nat) (same : w.capacity = max capacity 1) :
    w.clear = last capacity [] := by
  rw [last_nil]
  apply Window.ext
  · exact same
  · rfl

end Thermals.Window
