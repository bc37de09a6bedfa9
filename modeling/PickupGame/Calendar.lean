import PickupGame.Numeral.Decimal

/-!
# Calendar

Dates of the proleptic Gregorian calendar from 1970 on, and the seconds since the first of them in
UTC. Years are counted from the first of March, so that the leap day is the last of its year; four
hundred years are always 146097 days.
-/

namespace PickupGame

structure Date where
  year : Nat
  month : Nat
  day : Nat
  deriving DecidableEq, Repr

namespace Date

/-- Days from the first of March of the year 0 to the first of January 1970. -/
def epoch : Nat := 719468

/-- The date `n` days after the first of January 1970. -/
def ofDays (n : Nat) : Date :=
  let z := n + epoch
  let era := z / 146097
  let dayOfEra := z % 146097
  let yearOfEra := (dayOfEra - dayOfEra / 1460 + dayOfEra / 36524 - dayOfEra / 146096) / 365
  let dayOfYear := dayOfEra - (365 * yearOfEra + yearOfEra / 4 - yearOfEra / 100)
  let monthFromMarch := (5 * dayOfYear + 2) / 153
  let day := dayOfYear - (153 * monthFromMarch + 2) / 5 + 1
  if monthFromMarch < 10 then ⟨400 * era + yearOfEra, monthFromMarch + 3, day⟩
  else ⟨400 * era + yearOfEra + 1, monthFromMarch - 9, day⟩

def toDays (d : Date) : Nat :=
  let year := if d.month ≤ 2 then d.year - 1 else d.year
  let monthFromMarch := if d.month ≤ 2 then d.month + 9 else d.month - 3
  let era := year / 400
  let yearOfEra := year % 400
  let dayOfYear := (153 * monthFromMarch + 2) / 5 + (d.day - 1)
  let dayOfEra := 365 * yearOfEra + yearOfEra / 4 - yearOfEra / 100 + dayOfYear
  146097 * era + dayOfEra - epoch

end Date

/-- A second of UTC. -/
structure Instant where
  date : Date
  hour : Nat
  minute : Nat
  second : Nat
  deriving DecidableEq, Repr

namespace Instant

def ofSeconds (n : Nat) : Instant :=
  let rest := n % 86400
  ⟨.ofDays (n / 86400), rest / 3600, rest / 60 % 60, rest % 60⟩

/-- Seconds since the first of January 1970 at midnight, the inverse of `ofSeconds`. -/
def toSeconds (t : Instant) : Nat :=
  86400 * t.date.toDays + 3600 * t.hour + 60 * t.minute + t.second

/-- A year has at least four digits, and a plus sign when it has more. -/
def yearText (y : Nat) : List Char :=
  if y ≤ 9999 then Numeral.padded 4 y else '+' :: Numeral.digits y

/-- Date and time, as in `2014-05-13 16:53:22 UTC`. -/
def text (t : Instant) : String :=
  let two := Numeral.padded 2
  String.ofList (yearText t.date.year ++ '-' :: two t.date.month ++ '-' :: two t.date.day
    ++ ' ' :: two t.hour ++ ':' :: two t.minute ++ ':' :: two t.second ++ [' ', 'U', 'T', 'C'])

end Instant

end PickupGame
