import Mathlib.Data.List.Basic
import Thermals.Json.Records

namespace Thermals.Json

structure IsPlain (c : Char) : Prop where
  quote : c ≠ '"'
  backslash : c ≠ '\\'
  visible : isControl c = false

theorem escape_of_plain {c : Char} (plain : IsPlain c) : escape c = [c] := by
  have none : shortEscape? c = none := by
    have visible := plain.visible
    simp only [isControl, decide_eq_false_iff_not] at visible
    unfold shortEscape?
    split <;> first | omega | rfl
  simp [escape, plain.quote, plain.backslash, none, plain.visible]

variable {text : List Char} (plain : ∀ c ∈ text, IsPlain c)

include plain

theorem escaped_of_plain : escaped (String.ofList text) = text := by
  rw [escaped, String.toList_ofList]
  induction text with
  | nil => rfl
  | cons c rest ih =>
    rw [List.flatMap_cons, escape_of_plain (plain c List.mem_cons_self),
      ih fun d member => plain d (List.mem_cons_of_mem c member)]
    rfl

theorem takeString?_of_plain (rest : List Char) :
    takeString? (text ++ '"' :: rest) = some (text, rest) := by
  induction text with
  | nil => rfl
  | cons c more ih =>
    have first := plain c List.mem_cons_self
    rw [List.cons_append, takeString?.eq_def]
    simp [first.quote, first.backslash, first.visible,
      ih fun d member => plain d (List.mem_cons_of_mem c member)]

theorem units?_of_plain : units? text = some (text.map Char.toNat) := by
  induction text with
  | nil => rfl
  | cons c rest ih =>
    have first := plain c List.mem_cons_self
    rw [units?.eq_def]
    simp [first.backslash, ih fun d member => plain d (List.mem_cons_of_mem c member)]

omit plain in
theorem not_half (c : Char) : isHighHalf c.toNat = false ∧ isLowHalf c.toNat = false := by
  have valid : c.toNat < 0xD800 ∨ 0xDFFF < c.toNat ∧ c.toNat < 0x110000 := c.valid
  simp only [isHighHalf, isLowHalf, Bool.and_eq_false_iff, decide_eq_false_iff_not]
  omega

omit plain in
theorem characters?_toNat (text : List Char) : characters? (text.map Char.toNat) = some text := by
  induction text with
  | nil => rfl
  | cons c rest ih =>
    obtain ⟨high, low⟩ := not_half c
    cases rest with
    | nil => simp [characters?, high, low]
    | cons d more =>
      rw [List.map_cons] at ih
      rw [List.map_cons, List.map_cons, characters?, ih]
      simp [high, low]

theorem unescaped?_of_plain : unescaped? text = some (String.ofList text) := by
  rw [unescaped?, units?_of_plain plain, Option.bind_some, characters?_toNat, Option.map_some]

omit plain in
theorem tokens?_cons {c : Char} {tail rest : List Char} {token : Token} (visible : isSpace c = false)
    (step : take? (c :: tail) = some (token, rest)) :
    tokens? (c :: tail) = (tokens? rest).map (token :: ·) := by
  have start : (c :: tail).dropWhile isSpace = c :: tail := List.dropWhile_cons_of_neg (by simp [visible])
  rw [tokens?]
  split
  · rename_i none
    rw [start] at none
    cases none
  · rename_i d more found
    rw [start] at found
    cases found
    split
    · rename_i taken
      rw [step] at taken
      cases taken
      rfl
    · rename_i taken
      rw [step] at taken
      cases taken

theorem tokens?_of_plain :
    tokens? ('"' :: text ++ ['"']) = some [.scalar (.string text)] := by
  have step : take? ('"' :: (text ++ ['"'])) = some (.scalar (.string text), []) := by
    rw [take?, takeString?_of_plain plain]
    rfl
  have nothing : tokens? [] = some [] := by
    rw [tokens?]
    rfl
  rw [List.cons_append, tokens?_cons rfl step, nothing]
  rfl

theorem parse?_of_plain :
    Value.parse? (Value.string text).text = some (.string text) := by
  have single : Value.take? [.scalar (.string text)] = some (.string text, ⟨[], by simp⟩) := by
    rw [Value.take?]
  rw [Value.parse?, Value.text, quote, String.toList_ofList, tokens?_of_plain plain]
  simp only [single]

end Thermals.Json
