import Thermals.Proofs.Number.Digits
import Thermals.Proofs.Number.Hex
import Thermals.Replay

namespace Thermals

open Number

namespace Text

def OneLine (text : String) : Prop := '\n' ∉ text.toList

instance (text : String) : Decidable (OneLine text) := inferInstanceAs (Decidable (¬ _))

theorem OneLine.append {text more : String} (line : OneLine text) (more_line : OneLine more) :
    OneLine (text ++ more) := by
  rw [OneLine, String.toList_append, List.mem_append]
  exact not_or.mpr ⟨line, more_line⟩

theorem oneLine_ofList {text : List Char} (line : '\n' ∉ text) : OneLine (String.ofList text) := by
  rw [OneLine, String.toList_ofList]
  exact line

theorem oneLine_of_kind {kind : Char → Bool} (other : kind '\n' = false) {text : String}
    (all : ∀ c ∈ text.toList, kind c = true) : OneLine text := by
  intro broken
  have same := all _ broken
  rw [other] at same
  cases same

end Text

open Text

namespace Number

theorem oneLine_nat (n : Nat) : OneLine (toString n) :=
  oneLine_of_kind rfl (isNumeral_toString n).decimal

theorem oneLine_int (i : Int) : OneLine (toString i) :=
  oneLine_of_kind rfl fun _ => isDecimalChar_of_mem_toString

theorem oneLine_zeroPad (width n : Nat) : OneLine (zeroPad width (toString n)) :=
  oneLine_of_kind rfl fun _ => isDigit_of_mem_zeroPad

theorem oneLine_withPoint (n places : Nat) : OneLine (withPoint n places) :=
  oneLine_of_kind rfl (isMagnitude_withPoint n places).chars

theorem oneLine_sign (negative : Bool) : OneLine (if negative then "-" else "") := by
  cases negative <;> decide +kernel

structure Style.Unbroken (style : Style) : Prop where
  whole : ∀ c ∈ style.whole.toList, isDecimalChar c = true
  plus : ∀ c ∈ style.plus.toList, isDecimalChar c = true
  nan : OneLine style.nan
  infinite (negative : Bool) : OneLine (style.infinite negative)

theorem Style.Unbroken.write {style : Style} (unbroken : style.Unbroken) (x : Float) :
    OneLine (style.write x) := by
  unfold Style.write
  split
  · exact unbroken.nan
  · exact unbroken.infinite _
  · rename_i negative units _
    have magnitude := isMagnitude_magnitude unbroken.whole unbroken.plus units
    exact (oneLine_sign negative).append (oneLine_of_kind rfl magnitude.chars)

theorem unbroken_plain : plain.Unbroken where
  whole := List.all_eq_true.mp (by decide +kernel)
  plus := List.all_eq_true.mp (by decide +kernel)
  nan := by decide +kernel
  infinite := by decide +kernel

theorem oneLine_fixed (places : Nat) (x : Float) : OneLine (fixed places x) := by
  unfold fixed
  split
  · exact (oneLine_sign _).append (oneLine_withPoint _ _)
  · exact unbroken_plain.write x

end Number

namespace Time

theorem oneLine_yearText (year : Int) : OneLine (yearText year) := by
  have digits := oneLine_zeroPad 4 year.natAbs
  unfold yearText
  split
  · exact OneLine.append (by decide +kernel) digits
  · split
    · exact OneLine.append (by decide +kernel) digits
    · exact digits

theorem Date.oneLine_text (d : Date) : OneLine d.text := by
  have dash : OneLine "-" := by decide +kernel
  exact ((((oneLine_yearText _).append dash).append (oneLine_zeroPad _ _)).append dash).append
    (oneLine_zeroPad _ _)

theorem oneLine_timeOfDay (millis : Nat) : OneLine (timeOfDay millis) := by
  have colon : OneLine ":" := by decide +kernel
  have point : OneLine "." := by decide +kernel
  exact ((((((oneLine_zeroPad _ _).append colon).append (oneLine_zeroPad _ _)).append colon).append
    (oneLine_zeroPad _ _)).append point).append (oneLine_zeroPad _ _)

theorem Instant.oneLine_text (t : Instant) : OneLine t.text := by
  unfold Instant.text
  simp only []
  split
  · exact (((Date.oneLine_text _).append (by decide +kernel)).append (oneLine_timeOfDay _)).append
      (by decide +kernel)
  · exact (oneLine_int _).append (by decide +kernel)

end Time

theorem Traffic.FlarmId.oneLine_text (id : FlarmId) : OneLine id.text := by
  have digits : IsHexRun id.text.toList := by
    rw [Traffic.FlarmId.text, String.toList_ofList]
    exact isHexRun_writeHex 6 id.value
  exact oneLine_of_kind rfl digits

theorem Geo.Point.oneLine_text (p : Point) : OneLine p.text :=
  (((OneLine.append (by decide +kernel) (oneLine_fixed _ _)).append (by decide +kernel)).append
    (oneLine_fixed _ _)).append (by decide +kernel)

namespace Json

theorem ne_of_shortEscape? {c letter : Char} (found : shortEscape? c = some letter) :
    letter ≠ '\n' := by
  unfold shortEscape? at found
  split at found <;> first
    | (obtain rfl := Option.some.inj found; decide)
    | cases found

theorem digitChar_ne {n : Nat} (small : n < 16) : Nat.digitChar n ≠ '\n' := by
  have all : ∀ k ∈ List.range 16, Nat.digitChar k ≠ '\n' := by decide
  exact all n (List.mem_range.mpr small)

theorem unbroken_escape (c : Char) : '\n' ∉ escape c := by
  unfold escape
  split
  · rename_i quoted
    rcases quoted with rfl | rfl <;> decide
  · split
    · rename_i letter found
      have other := ne_of_shortEscape? found
      simp [other.symm]
    · rename_i unknown
      have other : c ≠ '\n' := by
        intro same
        rw [same] at unknown
        cases unknown
      split
      · rename_i control
        have small : c.toNat < 0x20 := by simpa [isControl] using control
        have high := digitChar_ne (n := c.toNat / 16) (by omega)
        have low := digitChar_ne (Nat.mod_lt c.toNat (by decide : 16 > 0))
        simp [high.symm, low.symm]
      · simp [other.symm]

theorem unbroken_escaped (text : String) : '\n' ∉ escaped text := by
  rw [escaped, List.mem_flatMap]
  intro broken
  obtain ⟨c, -, found⟩ := broken
  exact unbroken_escape c found

theorem unbroken_numberStyle : numberStyle.Unbroken where
  whole := List.all_eq_true.mp (by decide +kernel)
  plus := List.all_eq_true.mp (by decide +kernel)
  nan := by decide +kernel
  infinite := by decide +kernel

namespace Value

/-- Nothing that is written in the value breaks the line. -/
inductive Unbroken : Value → Prop where
  | null : Unbroken null
  | bool (b : Bool) : Unbroken (bool b)
  | number {text : String} (line : OneLine text) : Unbroken (number text)
  | string {written : List Char} (line : '\n' ∉ written) : Unbroken (string written)
  | array {items : List Value} (unbroken : ∀ item ∈ items, Unbroken item) : Unbroken (array items)
  | object {fields : List (List Char × Value)} (keys : ∀ field ∈ fields, '\n' ∉ field.1)
      (unbroken : ∀ field ∈ fields, Unbroken field.2) : Unbroken (object fields)

theorem oneLine_quote {written : List Char} (line : '\n' ∉ written) : OneLine (quote written) := by
  apply oneLine_ofList
  simp [line]

theorem oneLine_itemsText {items : List Value} (lines : ∀ item ∈ items, OneLine item.text) :
    OneLine (itemsText items) := by
  induction items with
  | nil => decide +kernel
  | cons value rest ih =>
    have first := lines value List.mem_cons_self
    have others := ih fun item member => lines item (List.mem_cons_of_mem _ member)
    cases rest with
    | nil => exact first
    | cons next rest => exact (first.append (by decide +kernel)).append others

theorem oneLine_fieldsText {fields : List (List Char × Value)}
    (keys : ∀ field ∈ fields, '\n' ∉ field.1) (lines : ∀ field ∈ fields, OneLine field.2.text) :
    OneLine (fieldsText fields) := by
  induction fields with
  | nil => decide +kernel
  | cons field rest ih =>
    have key := oneLine_quote (keys field List.mem_cons_self)
    have first := (key.append (by decide +kernel : OneLine ":")).append (lines field List.mem_cons_self)
    have others := ih (fun other member => keys other (List.mem_cons_of_mem _ member))
      fun other member => lines other (List.mem_cons_of_mem _ member)
    cases rest with
    | nil => exact first
    | cons next rest => exact (first.append (by decide +kernel)).append others

theorem Unbroken.oneLine_text {value : Value} (unbroken : value.Unbroken) : OneLine value.text := by
  induction unbroken with
  | null => decide +kernel
  | bool b => cases b <;> decide +kernel
  | number line => exact line
  | string line => exact oneLine_quote line
  | array _ lines =>
    exact (OneLine.append (by decide +kernel) (oneLine_itemsText lines)).append (by decide +kernel)
  | object keys _ lines =>
    exact (OneLine.append (by decide +kernel) (oneLine_fieldsText keys lines)).append
      (by decide +kernel)

theorem unbroken_ofString (text : String) : (ofString text).Unbroken := .string (unbroken_escaped text)

theorem unbroken_ofFloat (x : Float) : (ofFloat x).Unbroken := .number (unbroken_numberStyle.write x)

theorem unbroken_record {fields : List (String × Value)} (unbroken : ∀ field ∈ fields, field.2.Unbroken) :
    (record fields).Unbroken := by
  apply Unbroken.object <;> intro field member <;> obtain ⟨given, listed, rfl⟩ := List.mem_map.mp member
  · exact unbroken_escaped given.1
  · exact unbroken given listed

end Value
end Json

theorem Geo.Point.unbroken_json (p : Point) : p.json.Unbroken := by
  apply Json.Value.unbroken_record
  intro field member
  simp only [List.mem_cons, List.not_mem_nil, or_false] at member
  rcases member with rfl | rfl
  · exact Json.Value.unbroken_ofFloat _
  · exact Json.Value.unbroken_ofFloat _

namespace Detection

open Json Traffic

theorem Climb.unbroken_json (c : Climb) : c.json.Unbroken := by
  apply Value.unbroken_record
  intro field member
  simp only [List.mem_cons, List.not_mem_nil, or_false] at member
  rcases member with rfl | rfl | rfl
  · exact Value.unbroken_ofFloat _
  · exact .number (oneLine_nat _)
  · exact Value.unbroken_ofFloat _

theorem Track.unbroken_json (t : Track) : t.json.Unbroken := by
  apply Value.unbroken_record
  intro field member
  simp only [List.mem_append, List.mem_cons, List.not_mem_nil, or_false, Option.mem_toList,
    Option.map_eq_some_iff] at member
  rcases member with ((rfl | rfl) | ⟨p, -, rfl⟩) | rfl | rfl | rfl
  · exact Value.unbroken_ofString _
  · exact Value.unbroken_ofString _
  · exact p.unbroken_json
  · exact t.climb.unbroken_json
  · exact .number (oneLine_int _)
  · exact .number (oneLine_int _)

theorem Phase.oneLine_text (p : Phase) : OneLine p.text := by
  cases p <;> decide +kernel

theorem Track.oneLine_text (t : Track) : OneLine t.text := by
  let center := optionalText t.center fun p => ", center: " ++ p.text
  let climb := if 0 < t.climb.samples then
    ", climb: " ++ fixed 2 t.climb.average ++ "m/s (" ++ toString t.climb.samples ++ " samples)"
    else ""
  have whole : t.text = "TrafficThermal( id: " ++ t.id.text ++ ", state: " ++ t.phase.text ++ center ++
      climb ++ ", updated: " ++ t.updated.text ++ ")" := rfl
  have center_line : OneLine center := by
    cases found : t.center with
    | none => simp only [center, found, optionalText]; decide +kernel
    | some p =>
      simp only [center, found, optionalText]
      exact OneLine.append (by decide +kernel) p.oneLine_text
  have climb_line : OneLine climb := by
    unfold climb
    split
    · have opening : OneLine ", climb: " := by decide +kernel
      exact (((opening.append (oneLine_fixed 2 _)).append (by decide +kernel)).append
        (oneLine_nat _)).append (by decide +kernel)
    · decide +kernel
  have opening : OneLine "TrafficThermal( id: " := by decide +kernel
  have state : OneLine ", state: " := by decide +kernel
  have updated : OneLine ", updated: " := by decide +kernel
  have closing : OneLine ")" := by decide +kernel
  have phase := ((opening.append t.id.oneLine_text).append state).append t.phase.oneLine_text
  have detected := (phase.append center_line).append climb_line
  rw [whole]
  exact ((detected.append updated).append (Time.Instant.oneLine_text _)).append closing

end Detection

theorem Replay.oneLine_line (json : Bool) (time : Time.Instant) (track : Detection.Track) :
    OneLine (line json time track) := by
  cases json with
  | true => exact track.unbroken_json.oneLine_text
  | false => exact ((Time.Instant.oneLine_text time).append (by decide +kernel)).append track.oneLine_text

end Thermals
