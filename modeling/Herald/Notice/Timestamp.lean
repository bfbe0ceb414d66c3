import Herald.Text.Digits
/-!
# Timestamps

A timestamp is a second since 1970 in the proleptic Gregorian calendar and
the nanoseconds into it. A second that goes on for longer than a second is a
leap second. Its text is a date and a time in UTC to the whole second, with a
leap second as the second behind the one it goes on from, which is second 60
at the end of a minute; years beyond four digits and years before zero have a
sign.
-/

namespace Herald

/-- A date of the proleptic Gregorian calendar. -/
structure Date where
  year : Int
  month : Nat
  day : Nat
  deriving DecidableEq, Repr

namespace Date

/-- The date of a day, counted from 1970-01-01. Years are counted from
March, so that a leap day ends its year, in eras of 400 years. -/
def ofDays (days : Int) : Date :=
  let z := days + 719468
  let era := z / 146097
  let dayOfEra := (z % 146097).toNat
  let yearOfEra :=
    (dayOfEra - dayOfEra / 1460 + dayOfEra / 36524 - dayOfEra / 146096) / 365
  let dayOfYear := dayOfEra - (365 * yearOfEra + yearOfEra / 4 - yearOfEra / 100)
  let shifted := (5 * dayOfYear + 2) / 153
  let day := dayOfYear - (153 * shifted + 2) / 5 + 1
  let month := if shifted < 10 then shifted + 3 else shifted - 9
  let year : Int := yearOfEra + era * 400
  ⟨if month ≤ 2 then year + 1 else year, month, day⟩

/-- The day of a date, counted from 1970-01-01. -/
def toDays (d : Date) : Int :=
  let year := if d.month ≤ 2 then d.year - 1 else d.year
  let era := year / 400
  let yearOfEra := (year % 400).toNat
  let shifted := if 2 < d.month then d.month - 3 else d.month + 9
  let dayOfYear := (153 * shifted + 2) / 5 + d.day - 1
  let dayOfEra := yearOfEra * 365 + yearOfEra / 4 - yearOfEra / 100 + dayOfYear
  era * 146097 + dayOfEra - 719468

end Date

/-- A second and the nanoseconds into it, which can be those of a leap second
behind any second. -/
structure Timestamp where
  seconds : Int
  nanos : Nat
  earliest : -8334601228800 ≤ seconds
  latest : seconds ≤ 8210266876799
  nanos_lt : nanos < 2_000_000_000
  deriving DecidableEq, Repr

namespace Timestamp

/-- The timestamp of a second and its nanoseconds, if it is in range. Here a leap
second is taken at the end of a minute alone. -/
def of? (seconds : Int) (nanos : Nat) : Option Timestamp :=
  if h : (-8334601228800 ≤ seconds ∧ seconds ≤ 8210266876799)
      ∧ (nanos < 1_000_000_000 ∨ (nanos < 2_000_000_000 ∧ seconds % 60 = 59)) then
    some ⟨seconds, nanos, h.1.1, h.1.2, by omega⟩
  else none

/-- Whether the timestamp lies in a leap second. -/
def isLeap (t : Timestamp) : Bool := decide (1_000_000_000 ≤ t.nanos)

/-- The date of a timestamp. -/
def date (t : Timestamp) : Date := .ofDays (t.seconds / 86400)

/-- The second of the day. -/
def secondOfDay (t : Timestamp) : Nat := (t.seconds % 86400).toNat

/-- A year: four digits at least, and a sign if that is not all. -/
def yearText (y : Int) : List Char :=
  if 0 ≤ y ∧ y ≤ 9999 then Digits.padded 4 y.natAbs
  else (if y < 0 then '-' else '+') :: Digits.padded 4 y.natAbs

/-- **The text of a timestamp.** -/
def text (t : Timestamp) : List Char :=
  let d := t.date
  let s := t.secondOfDay
  yearText d.year ++ '-' :: Digits.padded 2 d.month ++ '-' :: Digits.padded 2 d.day
    ++ 'T' :: Digits.padded 2 (s / 3600) ++ ':' :: Digits.padded 2 (s / 60 % 60)
    ++ ':' :: Digits.padded 2 (s % 60 + if t.isLeap then 1 else 0) ++ ['Z']

end Timestamp

end Herald
