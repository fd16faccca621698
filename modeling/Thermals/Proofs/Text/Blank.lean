import Thermals.Text.Blank

namespace Thermals.Text

theorem trim_of_visible {text : List Char} (visible : ∀ c ∈ text, isBlank c = false) :
    trim text = text := by
  have skip {part : List Char} (visible : ∀ c ∈ part, isBlank c = false) :
      part.dropWhile isBlank = part := by
    cases part with
    | nil => rfl
    | cons c rest => exact List.dropWhile_cons_of_neg (by simp [visible c List.mem_cons_self])
  have reversed : ∀ c ∈ text.reverse, isBlank c = false :=
    fun c member => visible c (List.mem_reverse.mp member)
  rw [trim, skip visible, skip reversed, List.reverse_reverse]

theorem byteLength_eq_utf8ByteSize (text : List Char) :
    byteLength text = (String.ofList text).utf8ByteSize := by
  induction text with
  | nil => rfl
  | cons c rest ih =>
    have split : String.ofList (c :: rest) = String.singleton c ++ String.ofList rest := by
      apply String.toList_inj.mp
      simp
    rw [byteLength, ih, split, String.utf8ByteSize_append, String.utf8ByteSize_singleton]

theorem byteLength_of_ascii {text : List Char} (ascii : ∀ c ∈ text, c.toNat < 128) :
    byteLength text = text.length := by
  induction text with
  | nil => rfl
  | cons c rest ih =>
    have low := Nat.le_of_lt_succ (ascii c List.mem_cons_self)
    have first : c.utf8Size = 1 := Char.utf8Size_eq_one_iff.mpr (UInt32.le_iff_toNat_le.mpr low)
    have more := ih fun d member => ascii d (List.mem_cons_of_mem c member)
    rw [byteLength, first, more, List.length_cons, Nat.add_comm]

end Thermals.Text
