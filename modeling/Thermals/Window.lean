namespace Thermals

/-- The last few elements of a sequence, oldest first. -/
@[ext] structure Window (α : Type) where
  capacity : Nat
  items : List α
  capacity_pos : 0 < capacity
  length_le : items.length ≤ capacity
  deriving DecidableEq

namespace Window

variable {α : Type}

/-- An empty window. It has room for at least one element, whatever is asked for. -/
def empty (capacity : Nat) : Window α := ⟨max capacity 1, [], by omega, Nat.zero_le _⟩

def size (w : Window α) : Nat := w.items.length

instance [BEq α] : BEq (Window α) where
  beq w v := w.capacity == v.capacity && w.items == v.items

def isEmpty (w : Window α) : Bool := w.items.isEmpty

def isFull (w : Window α) : Bool := w.size == w.capacity

def evicted? (w : Window α) : Option α :=
  if w.capacity ≤ w.items.length then w.items.head? else none

def kept (w : Window α) : List α := if w.capacity ≤ w.items.length then w.items.tail else w.items

theorem length_kept_lt (w : Window α) : w.kept.length < w.capacity := by
  have pos := w.capacity_pos
  have le := w.length_le
  unfold kept
  split
  · rw [List.length_tail]; omega
  · omega

theorem length_kept_append_le (w : Window α) (a : α) : (w.kept ++ [a]).length ≤ w.capacity := by
  have less := w.length_kept_lt
  rw [List.length_append, List.length_singleton]
  omega

def push (w : Window α) (a : α) : Window α where
  capacity := w.capacity
  items := w.kept ++ [a]
  capacity_pos := w.capacity_pos
  length_le := w.length_kept_append_le a

def clear (w : Window α) : Window α := { w with items := [], length_le := Nat.zero_le _ }

def ofList (capacity : Nat) (items : List α) : Window α := items.foldl push (empty capacity)

def oldest? (w : Window α) : Option α := w.items.head?

def newest? (w : Window α) : Option α := w.items.getLast?

def get? (w : Window α) (i : Nat) : Option α := w.items[i]?

@[simp] theorem capacity_empty (capacity : Nat) : (empty capacity : Window α).capacity = max capacity 1 := rfl

@[simp] theorem items_empty (capacity : Nat) : (empty capacity : Window α).items = [] := rfl

@[simp] theorem capacity_push (w : Window α) (a : α) : (w.push a).capacity = w.capacity := rfl

@[simp] theorem items_push (w : Window α) (a : α) : (w.push a).items = w.kept ++ [a] := rfl

@[simp] theorem capacity_clear (w : Window α) : w.clear.capacity = w.capacity := rfl

@[simp] theorem items_clear (w : Window α) : w.clear.items = [] := rfl

theorem evicted?_append_kept (w : Window α) : w.evicted?.toList ++ w.kept = w.items := by
  unfold evicted? kept
  split
  · cases w.items <;> simp
  · simp

end Window
end Thermals
