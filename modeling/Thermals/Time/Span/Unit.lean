namespace Thermals.Time

inductive SpanUnit where
  | nanosecond | microsecond | millisecond
  | second | minute | hour | day | week | month | year
  deriving DecidableEq, Repr

namespace SpanUnit

/-- The nanoseconds of a unit. A year has 365.2425 days, and a month is the twelfth of it. -/
def nanos : SpanUnit → Nat
  | nanosecond => 1
  | microsecond => 1000
  | millisecond => 1000000
  | second => 1000000000
  | minute => 60 * 1000000000
  | hour => 3600 * 1000000000
  | day => 86400 * 1000000000
  | week => 604800 * 1000000000
  | month => 2629746 * 1000000000
  | year => 31556952 * 1000000000

/-- Each word with the least number of letters that it can be cut to. -/
def words : List (String × Nat × SpanUnit) := [
  ("nanoseconds", 1, nanosecond), ("nsecs", 1, nanosecond),
  ("microseconds", 3, microsecond), ("usecs", 1, microsecond), ("μsecs", 1, microsecond),
  ("milliseconds", 3, millisecond), ("msecs", 2, millisecond),
  ("seconds", 1, second), ("secs", 1, second),
  ("minutes", 1, minute), ("mins", 1, minute),
  ("hours", 1, hour), ("hrs", 1, hour),
  ("days", 1, day),
  ("weeks", 1, week),
  ("months", 2, month),
  ("years", 1, year), ("yrs", 1, year)]

/-- Lower case for the letters whose lower case occurs in a word: those of ASCII, the capital mu and
the kelvin sign. -/
def lower (c : Char) : Char :=
  if c = 'Μ' then 'μ' else if c = '\u212a' then 'k' else c.toLower

/-- The unit that a word stands for, in either case. A single capital `M` is a month, a small one a
minute. -/
def ofWord? (word : List Char) : Option SpanUnit :=
  if word = ['M'] then some month
  else
    let word := word.map lower
    (words.find? fun (full, least, _) =>
      decide (least ≤ word.length) && word.isPrefixOf full.toList).map fun (_, _, unit) => unit

end SpanUnit
end Thermals.Time
