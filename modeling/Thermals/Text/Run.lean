namespace Thermals.Text

theorem length_dropWhile_le {α : Type} (p : α → Bool) (text : List α) :
    (text.dropWhile p).length ≤ text.length := (List.dropWhile_sublist p).length_le

theorem length_dropWhile_lt {α : Type} {p : α → Bool} {text : List α}
    (h : text.takeWhile p ≠ []) : (text.dropWhile p).length < text.length := by
  have split := congrArg List.length (List.takeWhile_append_dropWhile (p := p) (l := text))
  have pos := List.length_pos_iff.mpr h
  simp only [List.length_append] at split
  omega

end Thermals.Text
