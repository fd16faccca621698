import Thermals.Proofs.Number.Digits
import Thermals.Proofs.Text.Run
import Thermals.Time.Span.Parser
import Thermals.Time.Span.Printer

namespace Thermals.Time

open Text Number

theorem isWord_of_isUnitLetter {c : Char} (letter : isUnitLetter c = true) : isWord c = true :=
  (Bool.and_eq_true_iff.mp letter).1

theorem isDecimalDigit_of_isUnitLetter {c : Char} (letter : isUnitLetter c = true) :
    isDecimalDigit c = false := by
  simpa using (Bool.and_eq_true_iff.mp letter).2

/-- Letters of which a unit can be made, the first one not the mark of an exponent. -/
structure IsUnitWord (word : List Char) : Prop where
  opens : OpensWith (fun c => c != 'e' && c != 'E') word
  letters : ∀ c ∈ word, isUnitLetter c = true

instance (word : List Char) : Decidable (IsUnitWord word) :=
  decidable_of_iff
    (OpensWith (fun c => c != 'e' && c != 'E') word ∧ word.all isUnitLetter = true)
    ⟨fun unit => ⟨unit.1, List.all_eq_true.mp unit.2⟩,
      fun unit => ⟨unit.opens, List.all_eq_true.mpr unit.letters⟩⟩

def behindWhole (places : Option (List Char)) (word : List Char) : List Char :=
  match places with
  | none => word
  | some fraction => '.' :: (fraction ++ word)

theorem takeNumber?_append {digits rest : List Char} (numeral : IsNumeral digits)
    (stops : StopsRun isDecimalDigit rest) : takeNumber? (digits ++ rest) = some (digits, rest) := by
  have all : ∀ c ∈ digits, isDecimalDigit c = true :=
    fun c member => isDecimalDigit_of_isDigit (numeral.decimal c member)
  have taken := takeWhile_run all stops
  have left := dropWhile_run all stops
  cases digits with
  | nil => exact absurd rfl numeral.nonempty
  | cons first more =>
    have unsigned : first ≠ '-' := ne_of_isDigit (numeral.decimal first List.mem_cons_self) rfl
    unfold takeNumber?
    split
    rename_i sign digits split
    have same : sign = [] ∧ digits = first :: more ++ rest := by
      split at split
      · rename_i found
        exact absurd (List.cons_eq_cons.mp found).1 unsigned
      · exact ⟨(Prod.mk.inj split).1.symm, (Prod.mk.inj split).2.symm⟩
    obtain ⟨rfl, rfl⟩ := same
    rw [taken, left]
    rfl

namespace IsUnitWord

variable {word : List Char}

theorem stops (unit : IsUnitWord word) : StopsRun isDecimalDigit word := by
  intro c head
  exact isDecimalDigit_of_isUnitLetter (unit.letters c (List.mem_of_mem_head? head))

theorem takeExponent_eq (unit : IsUnitWord word) : takeExponent word = (none, word) := by
  obtain ⟨c, rest, unmarked, rfl⟩ := opensWith_iff.mp unit.opens
  simp only [Bool.and_eq_true, bne_iff_ne] at unmarked
  simp [takeExponent, unmarked.1, unmarked.2]

theorem takeWord_eq (unit : IsUnitWord word) : takeWord word = (some word, []) := by
  have none : word.dropWhile (fun c => !isWord c) = word := by
    cases word with
    | nil => rfl
    | cons c rest => simp [isWord_of_isUnitLetter (unit.letters c List.mem_cons_self)]
  have taken := takeWhile_run unit.letters (stopsRun_nil isUnitLetter)
  have left := dropWhile_run unit.letters (stopsRun_nil isUnitLetter)
  rw [List.append_nil] at taken left
  have nonempty := unit.opens.ne_nil
  cases word with
  | nil => exact absurd rfl nonempty
  | cons c rest => simp only [takeWord, none, taken, left]

theorem takePlaces_eq (unit : IsUnitWord word) : takePlaces word = (none, word) := by
  cases word with
  | nil => rfl
  | cons c rest =>
    have unpointed : c ≠ '.' := by
      intro same
      have letter := unit.letters c List.mem_cons_self
      rw [same] at letter
      exact absurd letter (by decide +kernel)
    unfold takePlaces
    split
    · rename_i found
      exact absurd (List.cons_eq_cons.mp found).1 unpointed
    · rfl

end IsUnitWord

theorem takePlaces_fraction {fraction word : List Char} (numeral : IsNumeral fraction)
    (unit : IsUnitWord word) : takePlaces ('.' :: (fraction ++ word)) = (some fraction, word) := by
  have all : ∀ c ∈ fraction, isDecimalDigit c = true :=
    fun c member => isDecimalDigit_of_isDigit (numeral.decimal c member)
  have nonempty := numeral.nonempty
  cases fraction with
  | nil => exact absurd rfl nonempty
  | cons c more => simp only [takePlaces, takeWhile_run all unit.stops, dropWhile_run all unit.stops]

def IsPlaces (places : Option (List Char)) : Prop := ∀ fraction ∈ places, IsNumeral fraction

section Written

variable {whole word : List Char} {places : Option (List Char)}

theorem stopsRun_behindWhole (unit : IsUnitWord word) (places : Option (List Char)) :
    StopsRun isDecimalDigit (behindWhole places word) := by
  cases places with
  | none => exact unit.stops
  | some fraction => exact stopsRun_cons (by decide +kernel) _

theorem takePlaces_behindWhole (unit : IsUnitWord word) (numeral : IsPlaces places) :
    takePlaces (behindWhole places word) = (places, word) := by
  cases places with
  | none => exact unit.takePlaces_eq
  | some fraction => exact takePlaces_fraction (numeral fraction rfl) unit

theorem takeAmount?_written (numeral : IsNumeral whole) (fraction : IsPlaces places)
    (unit : IsUnitWord word) : takeAmount? (whole ++ behindWhole places word) =
      some (⟨whole, places, none, some word⟩, []) := by
  simp only [takeAmount?, takeNumber?_append numeral (stopsRun_behindWhole unit places),
    takePlaces_behindWhole unit fraction, unit.takeExponent_eq, unit.takeWord_eq]

theorem amounts_nil : amounts [] = [] := by
  rw [amounts]
  rfl

theorem amounts_written (numeral : IsNumeral whole) (fraction : IsPlaces places)
    (unit : IsUnitWord word) :
    amounts (whole ++ behindWhole places word) = [⟨whole, places, none, some word⟩] := by
  rw [amounts]
  split
  · rename_i amount rest found
    rw [takeAmount?_written numeral fraction unit] at found
    obtain ⟨rfl, rfl⟩ := Prod.mk.inj (Option.some.inj found)
    rw [amounts_nil]
  · rename_i found
    rw [takeAmount?_written numeral fraction unit] at found
    cases found

theorem loneNumber?_written (numeral : IsNumeral whole) (places : Option (List Char))
    (unit : IsUnitWord word) : loneNumber? (whole ++ behindWhole places word) = none := by
  have kept : (whole ++ behindWhole places word).dropWhile isFiller =
      whole ++ behindWhole places word := by
    have nonempty := numeral.nonempty
    cases whole with
    | nil => exact absurd rfl nonempty
    | cons c rest =>
      have digit := numeral.decimal c List.mem_cons_self
      simp [isFiller, isWord_of_isDigit digit]
  have more : (behindWhole places word).all isFiller = false := by
    obtain ⟨c, member⟩ := List.exists_mem_of_ne_nil _ unit.opens.ne_nil
    have behind : c ∈ behindWhole places word := by
      cases places <;> simp [behindWhole, member]
    rw [List.all_eq_false]
    exact ⟨c, behind, by simp [isFiller, isWord_of_isUnitLetter (unit.letters c member)]⟩
  rw [loneNumber?, kept, takeNumber?_append numeral (stopsRun_behindWhole unit places)]
  simp [more]

theorem parse_written {text : String} (numeral : IsNumeral whole) (fraction : IsPlaces places)
    (unit : IsUnitWord word) (written : text.toList = whole ++ behindWhole places word) :
    Span.parse text = Gathered.add ⟨0, 0⟩ ⟨whole, places, none, some word⟩ >>= Gathered.span := by
  rw [Span.parse, written, loneNumber?_written numeral places unit,
    amounts_written numeral fraction unit]
  simp only [List.foldlM_cons, List.foldlM_nil, bind_pure]

end Written

namespace Gathered

theorem span_eq {g : Gathered} {d : Span} (nanos : 0 ≤ g.nanos)
    (total : g.seconds * 1000000000 + g.nanos = d.nanos) : g.span = .ok d := by
  have bound := d.nanos_lt
  have quotient := Int.tdiv_eq_ediv_of_nonneg (b := 1000000000) nanos
  have rest := Int.tmod_eq_emod_of_nonneg (b := 1000000000) nanos
  have parts : Span.ofParts? (g.seconds + g.nanos / 1000000000).toNat
      (g.nanos % 1000000000).toNat = some d := by
    have sum : (g.seconds + g.nanos / 1000000000).toNat * 1000000000 +
        (g.nanos % 1000000000).toNat = d.nanos := by omega
    simp only [Span.ofParts?, sum]
    rw [dif_pos bound]
  have positive : ¬ (g.seconds + g.nanos / 1000000000 < 0 ∨ g.nanos % 1000000000 < 0) := by omega
  simp only [span, quotient, rest, parts]
  rw [if_neg positive]

theorem span_addWhole {n : Nat} {unit : SpanUnit} {d : Span} (total : n * unit.nanos = d.nanos) :
    (addWhole ⟨0, 0⟩ n unit).span = .ok d := by
  apply span_eq <;> unfold addWhole <;> cases unit <;> simp only [SpanUnit.nanos] at total ⊢ <;>
    simp <;> omega

theorem span_addScaled {n exponent : Int} {unit : SpanUnit} {d : Span}
    (total : scale (n * unit.nanos) exponent = d.nanos) :
    (addScaled ⟨0, 0⟩ n exponent unit).span = .ok d := by
  apply span_eq <;> simp only [addScaled, total] <;> omega

end Gathered

theorem scale_eq {n unit places : Nat} (pos : 0 < n) (long : 0 < places) (fits : places ≤ unit) :
    scale (n * (10 ^ unit : Nat)) (-places) = (n * 10 ^ (unit - places) : Nat) := by
  obtain ⟨e, rfl⟩ := Nat.exists_eq_succ_of_ne_zero (Nat.ne_of_gt long)
  have factors : n * 10 ^ unit = n * 10 ^ (unit - (e + 1)) * 10 ^ (e + 1) := by
    rw [Nat.mul_assoc, ← Nat.pow_add, Nat.sub_add_cancel fits]
  have whole : (n : Int) * (10 ^ unit : Nat) = (n * 10 ^ unit : Nat) := by simp
  have large : 2 ^ (e + 1) ≤ n * 10 ^ unit := by
    calc 2 ^ (e + 1) ≤ 10 ^ (e + 1) := Nat.pow_le_pow_left (by decide) _
      _ ≤ 10 ^ unit := Nat.pow_le_pow_right (by decide) fits
      _ ≤ n * 10 ^ unit := Nat.le_mul_of_pos_left _ pos
  have nonzero : n * 10 ^ unit ≠ 0 := Nat.ne_of_gt (Nat.lt_of_lt_of_le (Nat.two_pow_pos _) large)
  have log : ¬ (n * 10 ^ unit).log2 ≤ e := by
    rw [Nat.not_le]
    exact (Nat.le_log2 nonzero).mpr large
  have exponent : -((e + 1 : Nat) : Int) = .negSucc e := rfl
  rw [exponent, whole, scale, Int.natAbs_natCast, if_neg log, ← Int.ofNat_tdiv, Nat.pow_eq, factors,
    Nat.mul_div_cancel _ (Nat.pow_pos (by decide))]

theorem strip_eq (d : Decimal) :
    ∃ k : Nat, d.digits = d.strip.digits * 10 ^ k ∧ d.strip.exponent = d.exponent + k := by
  induction d using Decimal.strip.induct with
  | case1 d trailing ih =>
    obtain ⟨k, digits, exponent⟩ := ih
    simp only at digits exponent
    rw [Decimal.strip, dif_pos trailing]
    refine ⟨k + 1, ?_, ?_⟩
    · rw [Nat.pow_succ, ← Nat.mul_assoc, ← digits]
      omega
    · rw [exponent]
      omega
  | case2 d kept =>
    rw [Decimal.strip, dif_neg kept]
    exact ⟨0, by simp, by simp⟩

theorem readInt_eq {digits : List Char} (numeral : IsNumeral digits) :
    readInt digits = .ok ((ofDigits 0 digits : Nat) : Int) := by
  rw [readInt, numeral.int?_eq]

theorem add_whole {whole word : List Char} (numeral : IsNumeral whole) :
    Gathered.add ⟨0, 0⟩ ⟨whole, none, none, some word⟩ =
      (readUnit word).map (Gathered.addWhole ⟨0, 0⟩ (ofDigits 0 whole : Nat)) := by
  simp only [Gathered.add, readInt_eq numeral]
  cases readUnit word <;> rfl

theorem add_fraction {whole fraction word : List Char} (numeral : IsNumeral whole)
    (fraction_numeral : IsNumeral fraction) (short : fraction.length ≤ 9) :
    Gathered.add ⟨0, 0⟩ ⟨whole, some fraction, none, some word⟩ =
      (readUnit word).map
        (Gathered.addScaled ⟨0, 0⟩ (ofDigits 0 (whole ++ fraction) : Nat) (-fraction.length)) := by
  have inRange : inExponentRange (-fraction.length) = true := by
    simp [inExponentRange]
    omega
  have value : (ofDigits 0 whole : Int) * Nat.pow 10 fraction.length + (ofDigits 0 fraction : Nat) =
      (ofDigits 0 (whole ++ fraction) : Nat) := by
    rw [ofDigits_append, ofDigits_eq_add (ofDigits 0 whole), Nat.pow_eq]
    simp
  simp only [Gathered.add, readInt_eq numeral, readInt_eq fraction_numeral, bind, Except.bind, pure,
    Except.pure, Int.zero_sub, inRange, value]
  cases readUnit word <;> rfl

namespace Span

/-- The text of a span is an amount in its unit: a whole one, or one with no more places than the unit
has nanoseconds as powers of ten. -/
theorem toList_text {d : Span} {places : Nat} {sign : String} (shown : d.displayUnit = (places, sign)) :
    (∃ whole, d.text.toList = whole ++ sign.toList ∧ IsNumeral whole ∧
      ofDigits 0 whole * 10 ^ places = d.nanos) ∨
    ∃ whole fraction, d.text.toList = whole ++ '.' :: (fraction ++ sign.toList) ∧ IsNumeral whole ∧
      IsNumeral fraction ∧ fraction.length ≤ places ∧
      ofDigits 0 (whole ++ fraction) * 10 ^ (places - fraction.length) = d.nanos := by
  obtain ⟨k, digits, exponent⟩ := strip_eq ⟨d.nanos, -places⟩
  have text : d.text = plain.positionalText (Decimal.strip ⟨d.nanos, -places⟩) ++ sign := by
    rw [Span.text, shown]
  generalize Decimal.strip ⟨d.nanos, -places⟩ = stripped at digits exponent text
  simp only at digits exponent
  rw [text, String.toList_append, Style.positionalText]
  by_cases fits : places ≤ k
  · have shifted : stripped.exponent = .ofNat (k - places) := by rw [exponent, Int.ofNat_eq_natCast]; omega
    rw [shifted]
    refine Or.inl ⟨_, by simp [plain], isNumeral_toString (stripped.digits * 10 ^ (k - places)), ?_⟩
    rw [ofDigits_toString, Nat.mul_assoc, ← Nat.pow_add, Nat.sub_add_cancel fits, digits]
  · have shifted : stripped.exponent = .negSucc (places - k - 1) := by
      rw [exponent, Int.negSucc_eq]
      omega
    obtain ⟨whole, fraction, written, numeral, length, decimal, value⟩ :=
      toList_withPoint stripped.digits (places - k - 1 + 1)
    have nonempty : fraction ≠ [] := List.ne_nil_of_length_pos (by omega)
    rw [shifted]
    refine Or.inr ⟨whole, fraction, ?_, numeral, ⟨nonempty, decimal⟩, by omega, ?_⟩
    · rw [written, List.append_assoc, List.cons_append]
    · have left : places - fraction.length = k := by omega
      rw [value, left, digits]

theorem isUnitWord_sign (d : Span) : IsUnitWord d.displayUnit.2.toList := by
  unfold displayUnit
  split
  · decide +kernel
  · split
    · decide +kernel
    · split <;> decide +kernel

theorem unquoted_text (d : Span) : ∀ c ∈ d.text.toList, c ≠ '"' ∧ c ≠ '\\' := by
  have sign : ∀ c ∈ d.displayUnit.2.toList, c ≠ '"' ∧ c ≠ '\\' := by
    intro c member
    have letter := d.isUnitWord_sign.letters c member
    constructor <;> intro same <;> rw [same] at letter
    · exact absurd letter (by decide +kernel)
    · exact absurd letter (by decide +kernel)
  have decimal {digits : List Char} (numeral : IsNumeral digits) : ∀ c ∈ digits, c ≠ '"' ∧ c ≠ '\\' :=
    fun c member => ⟨ne_of_isDigit (numeral.decimal c member) rfl,
      ne_of_isDigit (numeral.decimal c member) rfl⟩
  intro c member
  rcases toList_text (d := d) rfl with ⟨whole, written, numeral, -⟩ |
    ⟨whole, fraction, written, numeral, fraction_numeral, -⟩
  · rw [written, List.mem_append] at member
    exact member.elim (decimal numeral c) (sign c)
  · rw [written, List.mem_append, List.mem_cons, List.mem_append] at member
    rcases member with member | rfl | member | member
    · exact decimal numeral c member
    · decide
    · exact decimal fraction_numeral c member
    · exact sign c member

theorem pos_of_displayUnit {d : Span} {places : Nat} {sign : String}
    (shown : d.displayUnit = (places, sign)) (divided : 0 < places) : 0 < d.nanos := by
  unfold displayUnit at shown
  split at shown
  · omega
  · split at shown
    · omega
    · split at shown
      · omega
      · obtain ⟨rfl, -⟩ := Prod.mk.inj shown
        exact absurd divided (Nat.lt_irrefl 0)

theorem parse_text_of_unit {d : Span} {places : Nat} {sign : String}
    (shown : d.displayUnit = (places, sign)) (short : places ≤ 9)
    (weight : ∀ unit, readUnit sign.toList = .ok unit → unit.nanos = 10 ^ places) :
    Span.parse d.text = (readUnit sign.toList).map fun _ => d := by
  have word := d.isUnitWord_sign
  rw [shown] at word
  rcases toList_text shown with ⟨whole, written, numeral, value⟩ |
    ⟨whole, fraction, written, numeral, fraction_numeral, length, value⟩
  · have none : IsPlaces none := by simp [IsPlaces]
    rw [parse_written numeral none word written, add_whole numeral]
    cases read : readUnit sign.toList with
    | error fault => rfl
    | ok unit => exact Gathered.span_addWhole (by rw [weight unit read, value])
  · have some : IsPlaces (some fraction) := by simpa [IsPlaces] using fraction_numeral
    rw [parse_written numeral some word written, add_fraction numeral fraction_numeral (by omega)]
    cases read : readUnit sign.toList with
    | error fault => rfl
    | ok unit =>
      have long : 0 < fraction.length := List.length_pos_iff.mpr fraction_numeral.nonempty
      have pos : 0 < ofDigits 0 (whole ++ fraction) := by
        apply Nat.pos_of_ne_zero
        intro zero
        have nanos := pos_of_displayUnit shown (by omega)
        rw [zero, Nat.zero_mul] at value
        omega
      apply Gathered.span_addScaled
      rw [weight unit read, scale_eq pos long length, value]

theorem parse_text_of_word {d : Span} {places : Nat} {sign : String} {unit : SpanUnit}
    (shown : d.displayUnit = (places, sign)) (short : places ≤ 9)
    (known : SpanUnit.ofWord? sign.toList = some unit) (weight : unit.nanos = 10 ^ places) :
    Span.parse d.text = .ok d := by
  have read : readUnit sign.toList = .ok unit := by rw [readUnit, known]
  rw [parse_text_of_unit shown short, read]
  · rfl
  · intro other other_read
    rw [read] at other_read
    obtain rfl := Except.ok.inj other_read
    exact weight

def InMicroseconds (d : Span) : Prop := 1000 ≤ d.nanos ∧ d.nanos < 1000000

instance (d : Span) : Decidable d.InMicroseconds :=
  inferInstanceAs (Decidable (1000 ≤ d.nanos ∧ d.nanos < 1000000))

/-- Microseconds are written with the micro sign, which is not the letter that the words for them start
with. Any other span is read back. -/
theorem parse_text (d : Span) : Span.parse d.text =
    if d.InMicroseconds then .error (.unknownUnit "µs") else .ok d := by
  by_cases seconds : 1000000000 ≤ d.nanos
  · have shown : d.displayUnit = (9, "s") := if_pos seconds
    have known : SpanUnit.ofWord? "s".toList = some .second := by decide +kernel
    have other : ¬ d.InMicroseconds :=
      fun range => Nat.not_lt.mpr seconds (Nat.lt_trans range.2 (by decide))
    rw [if_neg other, parse_text_of_word shown (by decide) known (by decide)]
  by_cases millis : 1000000 ≤ d.nanos
  · have shown : d.displayUnit = (6, "ms") := by rw [displayUnit, if_neg seconds, if_pos millis]
    have known : SpanUnit.ofWord? "ms".toList = some .millisecond := by decide +kernel
    have other : ¬ d.InMicroseconds := fun range => Nat.not_lt.mpr millis range.2
    rw [if_neg other, parse_text_of_word shown (by decide) known (by decide)]
  by_cases micros : 1000 ≤ d.nanos
  · have shown : d.displayUnit = (3, "µs") := by
      rw [displayUnit, if_neg seconds, if_neg millis, if_pos micros]
    have unknown : SpanUnit.ofWord? "µs".toList = none := by decide +kernel
    have read : readUnit "µs".toList = .error (.unknownUnit "µs") := by
      rw [readUnit, unknown]
      simp
    have range : d.InMicroseconds := ⟨micros, Nat.lt_of_not_le millis⟩
    rw [if_pos range, parse_text_of_unit shown (by decide), read]
    · rfl
    · intro unit found
      rw [read] at found
      cases found
  · have shown : d.displayUnit = (0, "ns") := by
      rw [displayUnit, if_neg seconds, if_neg millis, if_neg micros]
    have known : SpanUnit.ofWord? "ns".toList = some .nanosecond := by decide +kernel
    have other : ¬ d.InMicroseconds := fun range => micros range.1
    rw [if_neg other, parse_text_of_word shown (by decide) known (by decide)]

end Span

end Thermals.Time
