import TableApi.Calendar.Date
import TableApi.Text.Digits

namespace TableApi.Calendar

/-- Seconds since 1970-01-01 00:00:00 and nanoseconds after them. In a leap second the seconds
are those of second 59 and the nanoseconds are `10 ^ 9` or more. -/
structure Instant where
  seconds : Int
  nanos : Nat
deriving DecidableEq, Repr

def nanosPerSecond : Nat := 1000000000

def yearText (year : Int) : String :=
  if 0 ≤ year ∧ year ≤ 9999 then Text.padded 4 year.toNat
  else (if year < 0 then "-" else "+") ++ Text.padded 4 year.natAbs

namespace Instant

def date (t : Instant) : Date := Date.ofDayNumber (t.seconds / 86400)

def secondOfDay (t : Instant) : Nat := (t.seconds % 86400).toNat

def isLeapSecond (t : Instant) : Bool := nanosPerSecond ≤ t.nanos

def dateText (t : Instant) : String :=
  let d := t.date
  yearText d.year ++ "-" ++ Text.padded 2 d.month ++ "-" ++ Text.padded 2 d.day

def clockText (t : Instant) : String :=
  let s := t.secondOfDay
  let second := s % 60 + if t.isLeapSecond then 1 else 0
  Text.padded 2 (s / 3600) ++ ":" ++ Text.padded 2 (s / 60 % 60) ++ ":" ++ Text.padded 2 second

/-- The text that is bound into statements: the fraction of the second is left out. -/
def text (t : Instant) : String := t.dateText ++ " " ++ t.clockText

/-- Three, six or nine digits of the fraction, the fewest that hold it; none for zero. -/
def fractionText (nanos : Nat) : String :=
  if nanos = 0 then ""
  else if nanos % 1000000 = 0 then "." ++ Text.padded 3 (nanos / 1000000)
  else if nanos % 1000 = 0 then "." ++ Text.padded 6 (nanos / 1000)
  else "." ++ Text.padded 9 nanos

def jsonText (t : Instant) : String :=
  let nanos := if t.isLeapSecond then t.nanos - nanosPerSecond else t.nanos
  t.dateText ++ "T" ++ t.clockText ++ fractionText nanos ++ "Z"

end Instant

end TableApi.Calendar
