import Thermals.Json.Records
import Thermals.Proofs.Json.Plain
import Thermals.Proofs.Number.Hex
import Thermals.Proofs.Text.Blank

namespace Thermals.Traffic

open Text Number

structure IsIdText (digits : List Char) : Prop where
  hexadecimal : IsHexRun digits
  nonempty : 1 ≤ digits.length
  short : digits.length ≤ 6

def Outsized (digits : List Char) : Prop := digits = [] ∨ 6 < byteLength digits

def withoutPlus : List Char → List Char
  | '+' :: rest => rest
  | text => text

/-- How a word of 32 bits is read from hexadecimal digits. A plus sign can stand in front of them, and a
number that does not fit is refused. -/
def readWord? (text : List Char) : Option Nat :=
  if withoutPlus text = [] then none else (readHex 0 (withoutPlus text)).filter (· < 2 ^ 32)

theorem isBlank_of_isHexDigit {c : Char} (hex : c.isHexDigit = true) : isBlank c = false :=
  of_ascii (p := fun c => isBlank c = false) (by decide) hex

theorem isPlain_of_isHexDigit {c : Char} (hex : c.isHexDigit = true) : Json.IsPlain c where
  quote := of_ascii (p := fun c => c ≠ '"') (by decide) hex
  backslash := of_ascii (p := fun c => c ≠ '\\') (by decide) hex
  visible := of_ascii (p := fun c => Json.isControl c = false) (by decide) hex

theorem byteLength_of_run {digits : List Char} (hex : IsHexRun digits) :
    byteLength digits = digits.length :=
  byteLength_of_ascii fun c member => toNat_lt_of_isHexDigit (hex c member)

theorem IsIdText.not_outsized {digits : List Char} (idText : IsIdText digits) : ¬ Outsized digits := by
  have bytes := byteLength_of_run idText.hexadecimal
  have short := idText.short
  rintro (rfl | long)
  · exact absurd idText.nonempty (by decide)
  · omega

theorem isIdText_of_run {digits : List Char} (hex : IsHexRun digits) (size : ¬ Outsized digits) :
    IsIdText digits := by
  obtain ⟨nonempty, short⟩ := not_or.mp size
  have bytes := byteLength_of_run hex
  exact ⟨hex, List.length_pos_iff.mpr nonempty, by omega⟩

theorem hexNumber_small {digits : List Char} (hex : IsHexRun digits) (short : digits.length ≤ 6) :
    hexNumber digits < 0x1000000 :=
  Nat.lt_of_lt_of_le (hexNumber_lt hex) (Nat.pow_le_pow_right (by decide) short)

theorem withoutPlus_of_run {digits : List Char} (hex : IsHexRun digits) : withoutPlus digits = digits := by
  unfold withoutPlus
  split
  · have sign := hex '+' List.mem_cons_self
    cases sign
  · rfl

theorem readWord?_of_run {digits : List Char} (idText : IsIdText digits) :
    readWord? digits = some (hexNumber digits) := by
  have small := hexNumber_small idText.hexadecimal idText.short
  have nonempty := List.length_pos_iff.mp idText.nonempty
  have read := readHex_eq_some_iff.mpr ⟨idText.hexadecimal, rfl⟩
  have fits : hexNumber digits < 2 ^ 32 := by omega
  rw [readWord?, withoutPlus_of_run idText.hexadecimal, if_neg nonempty, read, Option.filter_some,
    if_pos (decide_eq_true fits)]

namespace FlarmId

theorem parse_cases (text : String) :
    Outsized (trim text.toList) ∧
      parse text = .error (.notTwentyFourBit (String.ofList (trim text.toList))) ∨
    IsIdText (trim text.toList) ∧
      (∃ id : FlarmId, parse text = .ok id ∧ id.value = hexNumber (trim text.toList)) ∨
    ¬ Outsized (trim text.toList) ∧ ¬ IsHexRun (trim text.toList) ∧
      parse text = .error (.notHexadecimal (String.ofList (trim text.toList))) := by
  unfold parse
  dsimp only
  split
  · rename_i refused
    exact .inl ⟨refused, rfl⟩
  · rename_i inRange
    split
    · rename_i value read
      obtain ⟨hex, found⟩ := readHex_eq_some_iff.mp read
      exact .inr (.inl ⟨isIdText_of_run hex inRange, _, rfl, found⟩)
    · rename_i unread
      refine .inr (.inr ⟨inRange, ?_, rfl⟩)
      intro hex
      rw [readHex_eq_some_iff.mpr ⟨hex, rfl⟩] at unread
      cases unread

theorem parse_eq_ok_iff {text : String} {id : FlarmId} : parse text = .ok id ↔
    IsIdText (trim text.toList) ∧ id.value = hexNumber (trim text.toList) := by
  rcases parse_cases text with ⟨size, refused⟩ | ⟨idText, other, read, value⟩ |
    ⟨-, letters, refused⟩
  · rw [refused]
    exact iff_of_false (by simp) fun found => found.1.not_outsized size
  · rw [read, Except.ok.injEq, FlarmId.ext_iff, value, eq_comm]
    exact (and_iff_right idText).symm
  · rw [refused]
    exact iff_of_false (by simp) fun found => letters found.1.hexadecimal

theorem parse_eq_notTwentyFourBit_iff {text : String} :
    parse text = .error (.notTwentyFourBit (String.ofList (trim text.toList))) ↔
      Outsized (trim text.toList) := by
  rcases parse_cases text with ⟨size, refused⟩ | ⟨idText, other, read, -⟩ |
    ⟨inRange, -, refused⟩
  · exact iff_of_true refused size
  · rw [read]
    exact iff_of_false (by simp) idText.not_outsized
  · rw [refused]
    exact iff_of_false (by simp) inRange

theorem parse_eq_notHexadecimal_iff {text : String} :
    parse text = .error (.notHexadecimal (String.ofList (trim text.toList))) ↔
      ¬ Outsized (trim text.toList) ∧ ¬ IsIdText (trim text.toList) := by
  rcases parse_cases text with ⟨size, refused⟩ | ⟨idText, other, read, -⟩ |
    ⟨inRange, letters, refused⟩
  · rw [refused]
    exact iff_of_false (by simp) fun found => found.1 size
  · rw [read]
    exact iff_of_false (by simp) fun found => found.2 idText
  · exact iff_of_true refused ⟨inRange, fun found => letters found.hexadecimal⟩

theorem toList_text (id : FlarmId) : id.text.toList = writeHex 6 id.value := String.toList_ofList

theorem parse_text (id : FlarmId) : parse id.text = .ok id := by
  have hex := isHexRun_writeHex 6 id.value
  have bare : trim id.text.toList = writeHex 6 id.value := by
    rw [toList_text]
    exact trim_of_visible fun c member => isBlank_of_isHexDigit (hex c member)
  have length := length_writeHex 6 id.value
  rw [parse_eq_ok_iff, bare, hexNumber_writeHex id.value_lt]
  exact ⟨⟨hex, by omega, by omega⟩, rfl⟩

theorem ofJson?_text (id : FlarmId) : (Json.Value.parse? id.json.text).bind ofJson? = some id := by
  have plain : ∀ c ∈ writeHex 6 id.value, Json.IsPlain c :=
    fun c member => isPlain_of_isHexDigit (isHexRun_writeHex 6 id.value c member)
  have written : id.json = .string (writeHex 6 id.value) := by
    rw [json, Json.Value.ofString, text, Json.escaped_of_plain plain]
  have read := parse_text id
  rw [text] at read
  rw [written, Json.parse?_of_plain plain, Option.bind_some, ofJson?, Json.unescaped?_of_plain plain,
    Option.bind_eq_bind, Option.bind_some, read]
  rfl

theorem text_of_parse {text : String} {id : FlarmId} (read : parse text = .ok id) :
    id.text = String.ofList (((trim text.toList).map Char.toUpper).leftpad 6 '0') := by
  obtain ⟨idText, value⟩ := parse_eq_ok_iff.mp read
  rw [FlarmId.text, value, writeHex_hexNumber idText.hexadecimal idText.short]

theorem ofNat?_eq_some_iff {n : Nat} {id : FlarmId} :
    ofNat? n = some id ↔ n ≤ 0xFFFFFF ∧ id.value = n := by
  unfold ofNat?
  split
  · rename_i small
    rw [Option.some.injEq, FlarmId.ext_iff, eq_comm, and_iff_right (Nat.le_of_lt_succ small)]
  · rename_i large
    exact iff_of_false (by simp) fun found => large (Nat.lt_succ_of_le found.1)

theorem text_inj {a b : FlarmId} : a = b ↔ a.text = b.text := by
  constructor
  · exact congrArg text
  · intro same
    have read := parse_text a
    rw [same, parse_text] at read
    exact (Except.ok.inj read).symm

/-- What can be read is one to six digits, which as a number need no more than 24 bits and are written back
in capitals, six of them. The refusals name the first of the two checks that fails, and the reading of a
word behind them refuses nothing. Every id is read back from its text, also as a record. -/
theorem reads_exactly_id_texts (text : String) :
    let digits := trim text.toList
    let outsized := digits = [] ∨ 6 < (String.ofList digits).utf8ByteSize
    ((∃ id, parse text = .ok id) ↔ IsIdText digits) ∧
    (∀ id, parse text = .ok id →
      id.value = hexNumber digits ∧ id.value ≤ 0xFFFFFF ∧
      id.text = String.ofList ((digits.map Char.toUpper).leftpad 6 '0')) ∧
    (parse text = .error (.notTwentyFourBit (String.ofList digits)) ↔ outsized) ∧
    (parse text = .error (.notHexadecimal (String.ofList digits)) ↔ ¬ outsized ∧ ¬ IsIdText digits) ∧
    (¬ outsized ∧ IsHexRun digits → readWord? digits = some (hexNumber digits)) ∧
    (∀ id : FlarmId, parse id.text = .ok id ∧
      (Json.Value.parse? id.json.text).bind ofJson? = some id) ∧
    (∀ n, (∃ id, ofNat? n = some id ∧ id.value = n) ↔ n ≤ 0xFFFFFF) ∧
    (∀ other a b, parse text = .ok a → parse other = .ok b → (a = b ↔ a.text = b.text)) := by
  dsimp only
  rw [← byteLength_eq_utf8ByteSize]
  refine ⟨⟨?_, ?_⟩, ?_, parse_eq_notTwentyFourBit_iff, parse_eq_notHexadecimal_iff, ?_, ?_, ?_, ?_⟩
  · rintro ⟨id, read⟩
    exact (parse_eq_ok_iff.mp read).1
  · intro idText
    have small := hexNumber_small idText.hexadecimal idText.short
    exact ⟨⟨_, small⟩, parse_eq_ok_iff.mpr ⟨idText, rfl⟩⟩
  · intro id read
    exact ⟨(parse_eq_ok_iff.mp read).2, Nat.le_of_lt_succ id.value_lt, text_of_parse read⟩
  · rintro ⟨inRange, hex⟩
    exact readWord?_of_run (isIdText_of_run hex inRange)
  · exact fun id => ⟨parse_text id, ofJson?_text id⟩
  · intro n
    constructor
    · rintro ⟨id, made, -⟩
      exact (ofNat?_eq_some_iff.mp made).1
    · intro small
      exact ⟨⟨n, Nat.lt_succ_of_le small⟩, ofNat?_eq_some_iff.mpr ⟨small, rfl⟩, rfl⟩
  · exact fun other a b _ _ => text_inj

example : readWord? "+F".toList = some 15 ∧
    (parse "+F").toOption = none ∧ (parse " 0f\t").toOption = some ⟨15, by decide⟩ := by decide +kernel

end FlarmId
end Thermals.Traffic
