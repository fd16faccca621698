import Thermals.Time.Span
import Thermals.Time.Span.Unit
import Thermals.Number.Literal
import Thermals.Text.Quoted
import Thermals.Text.Run

namespace Thermals.Time

open Text Number

inductive SpanFault where
  | noValueFound (text : String)
  | noUnitFound (amount : String)
  | unknownUnit (word : String)
  | notANumber (digits : String)
  | outOfBounds
  deriving DecidableEq, Repr

def SpanFault.message : SpanFault → String
  | .noValueFound text => "NoValueFound(" ++ quoted text ++ ")"
  | .noUnitFound amount => "NoUnitFound(" ++ quoted amount ++ ")"
  | .unknownUnit word => "UnknownUnit(" ++ quoted word ++ ")"
  | .notANumber digits => "ParseInt(" ++ quoted digits ++ ")"
  | .outOfBounds => "OutOfBounds"

/-- An amount as it stands in the text. Digits of other scripts can stand in it, too. -/
structure Amount where
  whole : List Char
  places : Option (List Char)
  exponent : Option (Char × List Char)
  word : Option (List Char)
  deriving DecidableEq, Repr

def takeNumber? (text : List Char) : Option (List Char × List Char) :=
  let (sign, digits) := match text with
    | '-' :: rest => (['-'], rest)
    | _ => ([], text)
  match digits.takeWhile isDecimalDigit with
  | [] => none
  | run => some (sign ++ run, digits.dropWhile isDecimalDigit)

def takePlaces (text : List Char) : Option (List Char) × List Char :=
  match text with
  | '.' :: rest =>
    match rest.takeWhile isDecimalDigit with
    | [] => (none, text)
    | run => (some run, rest.dropWhile isDecimalDigit)
  | _ => (none, text)

def takeExponent (text : List Char) : Option (Char × List Char) × List Char :=
  match text with
  | mark :: rest =>
    if mark = 'e' ∨ mark = 'E' then
      match takeNumber? rest with
      | some (number, rest) => (some (mark, number), rest)
      | none => (none, text)
    else (none, text)
  | [] => (none, text)

def isUnitLetter (c : Char) : Bool := isWord c && !isDecimalDigit c

def takeWord (text : List Char) : Option (List Char) × List Char :=
  let rest := text.dropWhile (fun c => !isWord c)
  match rest.takeWhile isUnitLetter with
  | [] => (none, text)
  | word => (some word, rest.dropWhile isUnitLetter)

theorem takeNumber?_length {text number rest : List Char}
    (h : takeNumber? text = some (number, rest)) : rest.length < text.length := by
  unfold takeNumber? at h
  split at h
  rename_i sign digits split
  have le : digits.length ≤ text.length := by
    split at split <;> cases split <;> simp
  split at h
  · cases h
  · rename_i run found
    cases h
    exact Nat.lt_of_lt_of_le (length_dropWhile_lt found) le

theorem takePlaces_length (text : List Char) : (takePlaces text).2.length ≤ text.length := by
  unfold takePlaces
  split
  · split
    · exact Nat.le_refl _
    · exact Nat.le_trans (length_dropWhile_le _ _) (by simp)
  · exact Nat.le_refl _

theorem takeExponent_length (text : List Char) : (takeExponent text).2.length ≤ text.length := by
  unfold takeExponent
  split
  · split
    · split
      · rename_i found
        have := takeNumber?_length found
        simp only [List.length_cons]
        omega
      · exact Nat.le_refl _
    · exact Nat.le_refl _
  · exact Nat.le_refl _

theorem takeWord_length (text : List Char) : (takeWord text).2.length ≤ text.length := by
  simp only [takeWord]
  split
  · exact Nat.le_refl _
  · exact Nat.le_trans (length_dropWhile_le _ _) (length_dropWhile_le _ _)

def takeAmount? (text : List Char) : Option (Amount × List Char) :=
  match takeNumber? text with
  | none => none
  | some (whole, rest) =>
    let (places, rest) := takePlaces rest
    let (exponent, rest) := takeExponent rest
    let (word, rest) := takeWord rest
    some (⟨whole, places, exponent, word⟩, rest)

theorem takeAmount?_length {text rest : List Char} {amount : Amount}
    (h : takeAmount? text = some (amount, rest)) : rest.length < text.length := by
  unfold takeAmount? at h
  split at h
  · cases h
  · rename_i whole tail found
    simp only [Option.some.injEq, Prod.mk.injEq] at h
    rw [← h.2]
    have number := takeNumber?_length found
    have places := takePlaces_length tail
    have exponent := takeExponent_length (takePlaces tail).2
    have word := takeWord_length (takeExponent (takePlaces tail).2).2
    omega

def amounts (text : List Char) : List Amount :=
  match _step : takeAmount? text with
  | some (amount, rest) => amount :: amounts rest
  | none =>
    match text with
    | [] => []
    | _ :: rest => amounts rest
termination_by text.length
decreasing_by
  · exact takeAmount?_length _step
  · simp

namespace Amount

def text (a : Amount) : String :=
  String.ofList (a.whole ++ optional a.places (fun places => '.' :: places) ++
    optional a.exponent (fun (mark, number) => mark :: number))
where
  optional {α : Type} (part : Option α) (write : α → List Char) : List Char :=
    (part.map write).getD []

end Amount

/-- What was gathered so far. The seconds and the nanoseconds are added up apart, and either can be
below zero in the end. -/
structure Gathered where
  seconds : Int
  nanos : Int
  deriving DecidableEq, Repr

def readInt (digits : List Char) : Except SpanFault Int :=
  match int? digits with
  | some n => .ok n
  | none => .error (.notANumber (String.ofList digits))

def readUnit (word : List Char) : Except SpanFault SpanUnit :=
  match SpanUnit.ofWord? word with
  | some unit => .ok unit
  | none => .error (.unknownUnit (String.ofList word))

def inExponentRange (n : Int) : Bool := -0x8000000000000000 ≤ n ∧ n < 0x8000000000000000

/-- Larger exponents count as this one. No span is as long, whatever its unit. -/
def exponentReach : Nat := 0x1000000

def scale (n exponent : Int) : Int :=
  match exponent with
  | .ofNat e => n * Nat.pow 10 (min e exponentReach)
  | .negSucc e =>
    -- of a number below the power of two nothing is left
    if n.natAbs.log2 ≤ e then 0 else n.tdiv (Nat.pow 10 (e + 1))

/-- A whole number of a unit: parts of a second count as nanoseconds, all else as seconds. -/
def Gathered.addWhole (g : Gathered) (n : Int) (unit : SpanUnit) : Gathered :=
  if unit.nanos < 1000000000 then { g with nanos := g.nanos + n * unit.nanos }
  else { g with seconds := g.seconds + n * (unit.nanos / 1000000000 : Nat) }

def Gathered.addScaled (g : Gathered) (n exponent : Int) (unit : SpanUnit) : Gathered :=
  { g with nanos := g.nanos + scale (n * unit.nanos) exponent }

/-- Adds an amount. The places are added to the whole part, whatever its sign. -/
def Gathered.add (g : Gathered) (a : Amount) : Except SpanFault Gathered := do
  let some word := a.word | throw (.noUnitFound a.text)
  let whole ← readInt a.whole
  match a.places with
  | none =>
    match a.exponent with
    | none => return g.addWhole whole (← readUnit word)
    | some (_, digits) =>
      let exponent ← readInt digits
      if !inExponentRange exponent then throw (.notANumber (String.ofList digits))
      return g.addScaled whole exponent (← readUnit word)
  | some digits =>
    let places ← readInt digits
    let exponent ← match a.exponent with
      | none => pure 0
      | some (_, digits) => readInt digits
    let shifted := exponent - digits.length
    if !inExponentRange shifted then throw .outOfBounds
    return g.addScaled (whole * Nat.pow 10 digits.length + places) shifted (← readUnit word)

/-- The span of so many seconds and nanoseconds. What the nanoseconds make up beyond whole seconds
has to be positive for itself. -/
def Gathered.span (g : Gathered) : Except SpanFault Span :=
  let seconds := g.seconds + g.nanos.tdiv 1000000000
  let nanos := g.nanos.tmod 1000000000
  if seconds < 0 ∨ nanos < 0 then .error .outOfBounds
  else
    match Span.ofParts? seconds.toNat nanos.toNat with
    | some span => .ok span
    | none => .error .outOfBounds

def isFiller (c : Char) : Bool := !isWord c && c != '-'

def loneNumber? (text : List Char) : Option (List Char) :=
  match takeNumber? (text.dropWhile isFiller) with
  | some (number, rest) => if rest.all isFiller then some number else none
  | none => none

/-- A text that holds one whole number and no other word is a number of seconds. In any other text the
amounts are added up, and what else it holds does not matter. Of several faults the first one counts. -/
def Span.parse (text : String) : Except SpanFault Span := do
  match loneNumber? text.toList with
  | some number => Gathered.span ⟨← readInt number, 0⟩
  | none =>
    match amounts text.toList with
    | [] => throw (.noValueFound text)
    | found => (← found.foldlM Gathered.add ⟨0, 0⟩).span

end Thermals.Time
