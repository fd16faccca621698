import Thermals.Time.Instant
import Thermals.Number.Style

namespace Thermals.Time

open Number (zeroPad)

structure Date where
  year : Int
  month : Nat
  day : Nat
  deriving DecidableEq, Repr

/-- The date so many days after 1970-01-01. Years are counted from March, so that a leap day ends
its year, and in eras of 400 years, which have 146097 days each. -/
def Date.ofDays (days : Int) : Date :=
  let shifted := days + 719468
  let era := shifted / 146097
  let dayOfEra := (shifted % 146097).toNat
  let yearOfEra := (dayOfEra - dayOfEra / 1460 + dayOfEra / 36524 - dayOfEra / 146096) / 365
  let dayOfYear := dayOfEra - (365 * yearOfEra + yearOfEra / 4 - yearOfEra / 100)
  let month := (5 * dayOfYear + 2) / 153
  let day := dayOfYear - (153 * month + 2) / 5 + 1
  let year := era * 400 + yearOfEra
  if month < 10 then ⟨year, month + 3, day⟩ else ⟨year + 1, month - 9, day⟩

def yearText (year : Int) : String :=
  let digits := zeroPad 4 (toString year.natAbs)
  if year < 0 then "-" ++ digits else if 9999 < year then "+" ++ digits else digits

def Date.text (d : Date) : String :=
  yearText d.year ++ "-" ++ zeroPad 2 (toString d.month) ++ "-" ++ zeroPad 2 (toString d.day)

def timeOfDay (millis : Nat) : String :=
  let part (divisor modulus width : Nat) := zeroPad width (toString (millis / divisor % modulus))
  part 3600000 24 2 ++ ":" ++ part 60000 60 2 ++ ":" ++ part 1000 60 2 ++ "." ++ part 1 1000 3

/-- An instant whose year is out of the range of the calendar is written as its milliseconds. -/
def Instant.text (t : Instant) : String :=
  let date := Date.ofDays (t.millis / 86400000)
  if -262143 ≤ date.year ∧ date.year ≤ 262142 then
    date.text ++ "T" ++ timeOfDay (t.millis % 86400000).toNat ++ "Z"
  else toString t.millis ++ "ms"

end Thermals.Time
