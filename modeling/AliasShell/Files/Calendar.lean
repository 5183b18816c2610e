/-
Dates of the Gregorian calendar from seconds since the beginning of 1970, in universal time.

Years are counted from March, which puts the leap day at the end of the year, and in eras of 400
years, which all have the same number of days.
-/
import AliasShell.Number.Integer

namespace AliasShell.Calendar

/-- Year, month and day. -/
structure Date where
  year : Int
  month : Nat
  day : Nat
  deriving Repr, DecidableEq

/-- The days of 400 years. -/
def eraDays : Nat := 146097

/-- The days from the first of March of the year 0 to the beginning of 1970. -/
def epochOffset : Nat := 719468

/-- The year of the era in which its day `n` lies, counted from March. -/
def yearOfEra (n : Nat) : Nat := (n - n / 1460 + n / 36524 - n / 146096) / 365

/-- The date this many days after the first of January 1970. -/
def ofDays (days : Int) : Date :=
  let shifted := days + epochOffset
  let era := shifted / eraDays
  let dayOfEra := (shifted % eraDays).toNat
  let year := yearOfEra dayOfEra
  let dayOfYear := dayOfEra - (365 * year + year / 4 - year / 100)
  let fromMarch := (5 * dayOfYear + 2) / 153
  let month := if fromMarch < 10 then fromMarch + 3 else fromMarch - 9
  { year := year + era * 400 + (if month ≤ 2 then 1 else 0)
    month
    day := dayOfYear - (153 * fromMarch + 2) / 5 + 1 }

/-- The days from the first of January 1970 to a date, whose month may be any number of months after
the beginning of the year, and whose day any number of days after the beginning of the month. -/
def daysOf (year month day : Int) : Int :=
  let year := year + (month - 1) / 12
  let month := (month - 1) % 12 + 1
  let year := if month ≤ 2 then year - 1 else year
  let era := year / 400
  let yearOfEra := year % 400
  let fromMarch := if month ≤ 2 then month + 9 else month - 3
  let dayOfYear := (153 * fromMarch + 2) / 5 + day - 1
  era * eraDays + yearOfEra * 365 + yearOfEra / 4 - yearOfEra / 100 + dayOfYear - epochOffset

/-- The digits of `n` behind zeros, `width` characters or more. -/
def padded (width n : Nat) : Text :=
  let ds := Integer.digits n
  List.replicate (width - ds.length) '0' ++ ds

/-- The year in four digits; outside of 0 to 9999 with its sign. -/
def yearText (y : Int) : Text :=
  if y < 0 then '-' :: padded 4 y.natAbs
  else if y ≤ 9999 then padded 4 y.natAbs
  else '+' :: padded 4 y.natAbs

/-- The moment as `YYYY-MM-DD HH:MM`. -/
def minuteText (seconds : Int) : Text :=
  let date := ofDays (seconds / 86400)
  let minute := (seconds % 86400 / 60).toNat
  yearText date.year ++ '-' :: padded 2 date.month ++ '-' :: padded 2 date.day ++
    ' ' :: padded 2 (minute / 60) ++ ':' :: padded 2 (minute % 60)

example : daysOf 1970 1 1 = 0 := by decide
example : daysOf 2000 2 30 = daysOf 2000 3 1 := by decide
example : minuteText 951868799 = "2000-02-29 23:59".toList := by decide +kernel
example : minuteText (-1) = "1969-12-31 23:59".toList := by decide +kernel

end AliasShell.Calendar
