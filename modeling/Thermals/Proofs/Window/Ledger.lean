import Thermals.Proofs.Filling
import Thermals.Proofs.Window

namespace Thermals.Window

variable {α : Type}

theorem isFull_iff (w : Window α) : w.isFull = true ↔ w.items.length = w.capacity := beq_iff_eq

theorem isSome_evicted? (w : Window α) : w.evicted?.isSome = w.isFull := by
  have le := w.length_le
  have pos := w.capacity_pos
  rw [Bool.eq_iff_iff, isFull_iff, evicted?]
  by_cases full : w.capacity ≤ w.items.length
  · have nonempty : w.items ≠ [] := List.length_pos_iff.mp (by omega)
    rw [if_pos full]
    exact iff_of_true (List.isSome_head?.mpr nonempty) (by omega)
  · rw [if_neg full]
    exact iff_of_false (by simp) (by omega)

theorem beq_iff [BEq α] (w v : Window α) :
    (w == v) = true ↔ w.capacity = v.capacity ∧ (w.items == v.items) = true := by
  show (w.capacity == v.capacity && w.items == v.items) = true ↔ _
  rw [Bool.and_eq_true, beq_iff_eq]

theorem rdrop_append_rtake (items : List α) (n : Nat) : items.rdrop n ++ items.rtake n = items :=
  List.take_append_drop _ _

theorem rdrop_append_evicted? (capacity : Nat) (items : List α) (a : α) :
    items.rdrop (max capacity 1) ++ (last capacity items).evicted?.toList =
      (items ++ [a]).rdrop (max capacity 1) := by
  obtain ⟨n, room⟩ : ∃ n, max capacity 1 = n + 1 := ⟨max capacity 1 - 1, by omega⟩
  have held : (last capacity items).evicted?.toList ++ items.rtake n = items.rtake (n + 1) := by
    have whole := (last capacity items).evicted?_append_kept
    rw [kept_last, room, Nat.add_sub_cancel] at whole
    rw [whole, ← room]
    rfl
  -- A push keeps n of the elements that are held. With these behind them, both sides are all of `items`.
  have same : items.rdrop (n + 1) ++ (last capacity items).evicted?.toList ++ items.rtake n =
      items.rdrop n ++ items.rtake n := by
    rw [List.append_assoc, held, rdrop_append_rtake, rdrop_append_rtake]
  rw [room, List.rdrop_concat_succ, List.append_cancel_right same]

/-- A window with the elements that its pushes drove out since it was last cleared. -/
@[ext] structure Ledger (α : Type) where
  window : Window α
  evicted : List α

namespace Ledger

def push (l : Ledger α) (a : α) : Ledger α :=
  ⟨l.window.push a, l.evicted ++ l.window.evicted?.toList⟩

def clear (l : Ledger α) : Ledger α := ⟨l.window.clear, []⟩

def after (capacity : Nat) (steps : List (Filling α)) : Ledger α :=
  steps.foldl (Filling.act push clear) ⟨empty capacity, []⟩

def ofList (capacity : Nat) (pushed : List α) : Ledger α :=
  ⟨last capacity pushed, pushed.rdrop (max capacity 1)⟩

theorem push_ofList (capacity : Nat) (pushed : List α) (a : α) :
    (ofList capacity pushed).push a = ofList capacity (pushed ++ [a]) :=
  Ledger.ext (push_last capacity pushed a) (rdrop_append_evicted? capacity pushed a)

theorem clear_ofList (capacity : Nat) (pushed : List α) :
    (ofList capacity pushed).clear = ofList capacity [] :=
  Ledger.ext (clear_eq_last_nil _ capacity rfl) (List.rdrop_nil _).symm

theorem after_eq_ofList (capacity : Nat) (steps : List (Filling α)) :
    after capacity steps = ofList capacity (Filling.log [] steps) := by
  have start : (⟨empty capacity, []⟩ : Ledger α) = ofList capacity [] :=
    Ledger.ext (last_nil capacity).symm (List.rdrop_nil _).symm
  rw [after, start]
  exact Filling.foldl_act (ofList capacity) (push_ofList capacity) (clear_ofList capacity) [] steps

/-- Whatever was done to a new window, it holds the last of the elements that went in since it was cleared,
as many as there is room for. All before them were driven out, in the order in which they went in. -/
theorem accounts_for_pushed [BEq α] (capacity : Nat) (steps : List (Filling α)) :
    let pushed := Filling.log [] steps
    let room := max capacity 1
    let stored := pushed.rtake room
    let l := after capacity steps
    let w := l.window
    (w.capacity = room ∧ w.items = stored ∧ stored.length = min room pushed.length) ∧
    l.evicted ++ w.items = pushed ∧
    w.evicted?.isSome = w.isFull ∧
    (w.size = stored.length ∧ (w.isFull = true ↔ stored.length = room) ∧
      w.oldest? = stored.head? ∧ w.newest? = stored.getLast? ∧ ∀ i, w.get? i = stored[i]?) ∧
    ∀ otherCapacity otherSteps,
      let other := (after otherCapacity otherSteps).window
      let otherRoom := max otherCapacity 1
      let otherStored := (Filling.log [] otherSteps).rtake otherRoom
      ((w == other) = true ↔ room = otherRoom ∧ (stored == otherStored) = true) ∧
      (w = other ↔ room = otherRoom ∧ stored = otherStored) := by
  dsimp only
  rw [after_eq_ofList]
  refine ⟨⟨rfl, rfl, length_rtake _ _⟩, rdrop_append_rtake _ _, isSome_evicted? _,
    ⟨rfl, isFull_iff _, rfl, rfl, fun _ => rfl⟩, ?_⟩
  intro otherCapacity otherSteps
  rw [after_eq_ofList]
  exact ⟨beq_iff _ _, Window.ext_iff⟩

end Ledger
end Thermals.Window
