import Thermals.Proofs.Ron.Reader
import Thermals.Ron.Number

namespace Thermals.Ron.Reader

open Text Number

theorem hexValue?_of_isDigit {c : Char} (digit : c.isDigit = true) :
    hexValue? c = some (c.toNat - 48) := by
  have bounds := isDigit_bounds digit
  rw [hexValue?]
  simp [bounds]

theorem sign_cons {c : Char} (noMinus : c ≠ '-') (noPlus : c ≠ '+') (rest : List Char) :
    sign (c :: rest) = some (false, c :: rest) := by
  rw [sign, bind_of_some (accept_other noMinus rest)]
  exact bind_of_some (accept_other noPlus rest) _

theorem sign_minus (rest : List Char) : sign ('-' :: rest) = some (true, rest) := by
  rw [sign, bind_of_some (accept_same '-' rest)]
  rfl

theorem foldlM_digits {digits : List Char} (decimal : ∀ c ∈ digits, c.isDigit = true) (value : Nat) :
    (digits.foldlM (fun value c => do
      let digit ← hexValue? c
      if digit < 10 then some (10 * value + digit) else none) value) = some (ofDigits value digits) := by
  induction digits generalizing value with
  | nil => rfl
  | cons c rest ih =>
    have digit := decimal c List.mem_cons_self
    have bounds := isDigit_bounds digit
    have small : c.toNat - 48 < 10 := by omega
    have step : (do
        let digit ← hexValue? c
        if digit < 10 then some (10 * value + digit) else none) =
        some (10 * value + (c.toNat - 48)) := by
      rw [hexValue?_of_isDigit digit]
      exact if_pos small
    rw [List.foldlM_cons, step]
    exact ih (fun c member => decimal c (List.mem_cons_of_mem _ member)) _

theorem wholeOfBase?_digits {digits : List Char} (decimal : ∀ c ∈ digits, c.isDigit = true) :
    wholeOfBase? 10 digits = some (ofDigits 0 digits) := by
  have kept : digits.filter (· != '_') = digits := by
    apply List.filter_eq_self.mpr
    intro c member
    rw [bne_iff_ne]
    exact ne_of_isDigit (decimal c member) rfl
  rw [wholeOfBase?, kept, foldlM_digits decimal]

theorem base_ten {digits rest : List Char} (numeral : IsNumeral digits)
    (stops : StopsRun continuesName rest) : base (digits ++ rest) = some (10, digits ++ rest) := by
  have noPrefix (mark : Char) (letter : mark.isDigit = false) (named : continuesName mark = true) :
      chars ['0', mark] (digits ++ rest) = none := by
    have notPrefix : ¬ ['0', mark] <+: digits ++ rest := by
      intro found
      obtain ⟨tail, split⟩ := found
      cases digits with
      | nil => exact numeral.nonempty rfl
      | cons first more =>
        obtain ⟨-, split⟩ := List.cons_eq_cons.mp split
        cases more with
        | nil =>
          obtain rfl : mark :: tail = rest := split
          rw [stops mark rfl] at named
          cases named
        | cons second more =>
          obtain ⟨rfl, -⟩ := List.cons_eq_cons.mp split
          rw [numeral.decimal _ (by simp)] at letter
          cases letter
    rw [chars, if_neg (by simpa using notPrefix)]
  have hexadecimal := noPrefix 'x' (by decide) (by decide +kernel)
  have octal := noPrefix 'o' (by decide) (by decide +kernel)
  have binary := noPrefix 'b' (by decide) (by decide +kernel)
  rw [base, orElse_of_none (bind_of_none hexadecimal _), orElse_of_none (bind_of_none octal _),
    orElse_of_none (bind_of_none binary _)]
  rfl

theorem suffix_none (types : List String) {rest : List Char} (stops : StopsRun continuesName rest) :
    suffix types rest = some ("", rest) := by
  have nothing : ∀ c ∈ ([] : List Char), continuesName c = true := by simp
  have found : run continuesName rest = some ([], rest) := run_eq nothing stops
  rw [suffix, bind_of_some found]
  rfl

theorem sign_digits {digits : List Char} (numeral : IsNumeral digits) (rest : List Char) :
    sign (digits ++ rest) = some (false, digits ++ rest) := by
  cases digits with
  | nil => exact absurd rfl numeral.nonempty
  | cons c more =>
    have digit := numeral.decimal c List.mem_cons_self
    exact sign_cons (ne_of_isDigit digit rfl) (ne_of_isDigit digit rfl) _

theorem whole_digits {digits : List Char} {type : WholeType} (numeral : IsNumeral digits)
    (named : type.name ≠ "") (low : type.low ≤ 0) (high : (ofDigits 0 digits : Int) < type.high)
    {rest : List Char} (stops : StopsRun continuesName rest)
    (stopsWhole : StopsRun isIntegerChar rest) :
    whole [type] type (digits ++ rest) = some ((ofDigits 0 digits : Int), rest) := by
  have integers : ∀ c ∈ digits, isIntegerChar c = true := by
    intro c member
    simp [isIntegerChar, hexValue?_of_isDigit (numeral.decimal c member)]
  have first : (digits.head? != some '_') = true := by
    rw [bne_iff_ne]
    intro head
    have digit := numeral.decimal _ (List.mem_of_mem_head? head)
    cases digit
  have magnitude : lift (wholeOfBase? 10 digits) rest = some (ofDigits 0 digits, rest) := by
    rw [wholeOfBase?_digits numeral.decimal]
    rfl
  have unnamed : ([type].find? fun type => type.name == "").getD type = type := by simp [named]
  rw [whole, bind_of_some (sign_digits numeral rest), bind_of_some (base_ten numeral stops),
    bind_of_some (nonempty_eq numeral.nonempty integers stopsWhole), first,
    bind_of_some (ensure_true _), bind_of_some magnitude, bind_of_some (suffix_none _ stops), unnamed]
  have inRange : (type.low ≤ (ofDigits 0 digits : Int) && (ofDigits 0 digits : Int) < type.high) = true := by
    simp
    omega
  simp only [Bool.false_eq_true, if_false, inRange]
  rfl

theorem unsigned64_toString {n : Nat} (small : n < 2 ^ 64) {rest : List Char}
    (stops : StopsRun continuesName rest) (stopsWhole : StopsRun isIntegerChar rest) :
    unsigned64 ((toString n).toList ++ rest) = some (n, rest) := by
  have high : (ofDigits 0 (toString n).toList : Int) < (unsigned 64).high := by
    rw [ofDigits_toString]
    exact Int.ofNat_lt.mpr small
  have read := whole_digits (isNumeral_toString n) (by decide) (by decide) high stops stopsWhole
  rw [ofDigits_toString] at read
  exact bind_of_some read _

theorem withoutUnderscores?_eq {text : List Char} (plain : ∀ c ∈ text, c ≠ '_') (allowed : Bool) :
    withoutUnderscores? allowed text = some text := by
  induction text generalizing allowed with
  | nil => rfl
  | cons c rest ih =>
    have tail := ih (fun c member => plain c (List.mem_cons_of_mem _ member)) (allowsUnderscore allowed c)
    rw [withoutUnderscores?, if_neg (plain c List.mem_cons_self), tail]
    rfl

theorem continuesName_of_isDigit {c : Char} (digit : c.isDigit = true) : continuesName c = true := by
  have bounds := isDigit_bounds digit
  have unjoined : isJoinControl c = false := by
    simp [isJoinControl]
    omega
  rw [continuesName, isWord_of_isDigit digit, unjoined]
  rfl

theorem special_digit (types : List String) {text : List Char} {negative : Bool} {c : Char}
    {rest : List Char} (signed : sign text = some (negative, c :: rest)) (digit : c.isDigit = true) :
    special types text = none := by
  have found : run continuesName (c :: rest) =
      some (c :: rest.takeWhile continuesName, rest.dropWhile continuesName) := by
    simp [run, continuesName_of_isDigit digit]
  have differs {word : String} {d : Char} {tail : List Char} (split : word.toList = d :: tail)
      (letter : d.isDigit = false) :
      (String.ofList (c :: rest.takeWhile continuesName) == word) = false := by
    rw [beq_eq_false_iff_ne]
    intro same
    rw [← same, String.toList_ofList] at split
    obtain ⟨rfl, -⟩ := List.cons_eq_cons.mp split
    rw [digit] at letter
    cases letter
  have unread {word : String} {d : Char} {tail : List Char} (split : word.toList = d :: tail)
      (letter : d.isDigit = false) :
      (String.ofList (c :: rest.takeWhile continuesName) == word ||
        types.any fun type => String.ofList (c :: rest.takeWhile continuesName) == word ++ type) =
        false := by
    rw [differs split letter, Bool.false_or, List.any_eq_false]
    intro type _
    have longer : (word ++ type).toList = d :: (tail ++ type.toList) := by
      rw [String.toList_append, split, List.cons_append]
    rw [differs longer letter]
    exact Bool.false_ne_true
  have infinite : "inf".toList = ['i', 'n', 'f'] := by decide
  have undefined : "NaN".toList = ['N', 'a', 'N'] := by decide
  rw [special, bind_of_some signed, bind_of_some found]
  simp only [unread infinite (by decide), unread undefined (by decide)]
  rfl

theorem fraction_eq (types : List String) {text rest : List Char} {x : Float} (nonempty : text ≠ [])
    (chars : ∀ c ∈ text, isFloatChar c = true ∧ c ≠ '_') (read : float? text = some x)
    (stops : StopsRun isFloatChar rest) (stopsName : StopsRun continuesName rest) :
    fraction types (text ++ rest) = some (x, rest) := by
  have value : lift ((withoutUnderscores? false text).bind float?) rest = some (x, rest) := by
    rw [withoutUnderscores?_eq fun c member => (chars c member).2, Option.bind_some, read]
    rfl
  rw [fraction, bind_of_some (nonempty_eq nonempty (fun c member => (chars c member).1) stops),
    bind_of_some value, bind_of_some (suffix_none types stopsName)]
  rfl

theorem isFloatChar_of_isDecimalChar {c : Char} (decimal : isDecimalChar c = true) :
    isFloatChar c = true ∧ c ≠ '_' := by
  constructor
  · simp only [isDecimalChar, Bool.or_eq_true] at decimal
    simp only [isFloatChar, Bool.or_eq_true]
    grind
  · intro same
    rw [same] at decimal
    cases decimal

theorem float_eq (types : List String) {text magnitude rest : List Char} {x : Float}
    (decimal : IsMagnitude magnitude) (signed : text = magnitude ∨ text = '-' :: magnitude)
    (read : float? text = some x) (stops : StopsRun isFloatChar rest)
    (stopsName : StopsRun continuesName rest) : float types (text ++ rest) = some (x, rest) := by
  have plain : ∀ c ∈ text, isFloatChar c = true ∧ c ≠ '_' := by
    intro c member
    apply isFloatChar_of_isDecimalChar
    rcases signed with rfl | rfl
    · exact decimal.chars c member
    · rcases List.mem_cons.mp member with rfl | member
      · rfl
      · exact decimal.chars c member
  obtain ⟨c, more, digit, rfl⟩ := opensWith_iff.mp decimal.starts
  rw [float, orElse_of_none]
  · apply fraction_eq types ?_ plain read stops stopsName
    rcases signed with rfl | rfl <;> exact List.cons_ne_nil _ _
  · rcases signed with rfl | rfl
    · exact special_digit types (sign_cons (ne_of_isDigit digit rfl) (ne_of_isDigit digit rfl) _) digit
    · exact special_digit types (sign_minus _) digit

end Thermals.Ron.Reader
