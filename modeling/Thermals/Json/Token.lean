import Thermals.Json.Value
import Thermals.Text.Run

namespace Thermals.Json

open Text Number

inductive Token where
  | openArray
  | closeArray
  | openObject
  | closeObject
  | comma
  | colon
  | scalar (value : Value)

def isSpace (c : Char) : Bool := c == ' ' || c == '\t' || c == '\n' || c == '\r'

def isEscape (c : Char) (rest : List Char) : Bool :=
  if c = 'u' then ((rest.take 4).filter fun c => (hexValue? c).isSome).length == 4
  else (letterValue? c).isSome

def takeString? : List Char → Option (List Char × List Char)
  | [] => none
  | '"' :: rest => some ([], rest)
  | '\\' :: c :: rest =>
    if isEscape c rest then (takeString? rest).map fun (s, rest) => ('\\' :: c :: s, rest) else none
  | c :: rest =>
    if isControl c then none else (takeString? rest).map fun (s, rest) => (c :: s, rest)

def takeDigits? (text : List Char) : Option (List Char × List Char) :=
  match text.takeWhile Char.isDigit with
  | [] => none
  | digits => some (digits, text.dropWhile Char.isDigit)

/-- Digits that start with a zero only if there is no other. -/
def takeWhole? (text : List Char) : Option (List Char × List Char) :=
  match takeDigits? text with
  | some ('0' :: _ :: _, _) => none
  | found => found

def takePart? (lead : List Char) (text : List Char) : Option (List Char × List Char) :=
  (takeDigits? text).map fun (digits, rest) => (lead ++ digits, rest)

def takeFraction? : List Char → Option (List Char × List Char)
  | '.' :: rest => takePart? ['.'] rest
  | text => some ([], text)

def takeExponent? : List Char → Option (List Char × List Char)
  | c :: rest =>
    if c = 'e' ∨ c = 'E' then
      match rest with
      | '+' :: rest => takePart? [c, '+'] rest
      | '-' :: rest => takePart? [c, '-'] rest
      | rest => takePart? [c] rest
    else some ([], c :: rest)
  | [] => some ([], [])

def takeNumber? (text : List Char) : Option (List Char × List Char) := do
  let (sign, rest) := match text with
    | '-' :: rest => (['-'], rest)
    | rest => ([], rest)
  let (whole, rest) ← takeWhole? rest
  let (fraction, rest) ← takeFraction? rest
  let (exponent, rest) ← takeExponent? rest
  return (sign ++ whole ++ fraction ++ exponent, rest)

theorem takeString?_length {text written rest : List Char}
    (h : takeString? text = some (written, rest)) : rest.length < text.length := by
  fun_induction takeString? text generalizing written with
  | case1 => cases h
  | case2 => cases h; simp
  | case3 c tail _ ih =>
    obtain ⟨⟨s, r⟩, found, same⟩ := Option.map_eq_some_iff.mp h
    cases same
    have := ih found
    simp only [List.length_cons]
    omega
  | case4 => cases h
  | case5 => cases h
  | case6 c tail _ _ _ ih =>
    obtain ⟨⟨s, r⟩, found, same⟩ := Option.map_eq_some_iff.mp h
    cases same
    have := ih found
    simp only [List.length_cons]
    omega

theorem takeDigits?_length {text digits rest : List Char}
    (h : takeDigits? text = some (digits, rest)) : rest.length < text.length := by
  unfold takeDigits? at h
  split at h
  · cases h
  · rename_i found
    cases h
    exact length_dropWhile_lt found

theorem takeWhole?_length {text whole rest : List Char}
    (h : takeWhole? text = some (whole, rest)) : rest.length < text.length := by
  unfold takeWhole? at h
  split at h
  · cases h
  · exact takeDigits?_length h

theorem takePart?_length {lead text part rest : List Char}
    (h : takePart? lead text = some (part, rest)) : rest.length < text.length := by
  obtain ⟨⟨digits, tail⟩, found, same⟩ := Option.map_eq_some_iff.mp h
  cases same
  exact takeDigits?_length found

theorem takeFraction?_length {text part rest : List Char}
    (h : takeFraction? text = some (part, rest)) : rest.length ≤ text.length := by
  unfold takeFraction? at h
  split at h
  · have := takePart?_length h
    simp only [List.length_cons]
    omega
  · cases h; exact Nat.le_refl _

theorem takeExponent?_length {text part rest : List Char}
    (h : takeExponent? text = some (part, rest)) : rest.length ≤ text.length := by
  unfold takeExponent? at h
  split at h
  · split at h
    · split at h
      all_goals
        have := takePart?_length h
        simp only [List.length_cons] at this ⊢
        omega
    · cases h; exact Nat.le_refl _
  · cases h; exact Nat.le_refl _

theorem takeNumber?_length {text number rest : List Char}
    (h : takeNumber? text = some (number, rest)) : rest.length < text.length := by
  unfold takeNumber? at h
  split at h
  rename_i sign unsigned split
  have le : unsigned.length ≤ text.length := by
    split at split <;> cases split <;> simp
  simp only [Option.bind_eq_bind, Option.bind_eq_some_iff, Prod.exists] at h
  obtain ⟨whole, afterWhole, w, fraction, afterFraction, f, exponent, afterExponent, e, same⟩ := h
  cases same
  have := takeWhole?_length w
  have := takeFraction?_length f
  have := takeExponent?_length e
  omega

def take? (text : List Char) : Option (Token × List Char) :=
  match text with
  | '[' :: rest => some (.openArray, rest)
  | ']' :: rest => some (.closeArray, rest)
  | '\x7b' :: rest => some (.openObject, rest)
  | '\x7d' :: rest => some (.closeObject, rest)
  | ',' :: rest => some (.comma, rest)
  | ':' :: rest => some (.colon, rest)
  | 'n' :: 'u' :: 'l' :: 'l' :: rest => some (.scalar .null, rest)
  | 't' :: 'r' :: 'u' :: 'e' :: rest => some (.scalar (.bool true), rest)
  | 'f' :: 'a' :: 'l' :: 's' :: 'e' :: rest => some (.scalar (.bool false), rest)
  | '"' :: rest => (takeString? rest).map fun (s, rest) => (.scalar (.string s), rest)
  | text => (takeNumber? text).map fun (n, rest) => (.scalar (.number (String.ofList n)), rest)

theorem take?_length {text rest : List Char} {token : Token}
    (h : take? text = some (token, rest)) : rest.length < text.length := by
  unfold take? at h
  split at h
  case h_10 =>
    obtain ⟨⟨s, r⟩, found, same⟩ := Option.map_eq_some_iff.mp h
    cases same
    have := takeString?_length found
    simp only [List.length_cons]
    omega
  case h_11 =>
    obtain ⟨⟨n, r⟩, found, same⟩ := Option.map_eq_some_iff.mp h
    cases same
    exact takeNumber?_length found
  all_goals
    cases h
    simp only [List.length_cons]
    omega

def tokens? (text : List Char) : Option (List Token) :=
  match _start : text.dropWhile isSpace with
  | [] => some []
  | c :: tail =>
    match _step : take? (c :: tail) with
    | some (token, rest) => (tokens? rest).map (token :: ·)
    | none => none
termination_by text.length
decreasing_by
  have skipped := length_dropWhile_le isSpace text
  have taken := take?_length _step
  rw [_start] at skipped
  omega

end Thermals.Json
