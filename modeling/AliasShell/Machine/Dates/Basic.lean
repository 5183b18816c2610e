/-
Moments as they are told: year, month, day and time of day, as seen from a zone.  And lengths of
time as arguments give them: a number of seconds, or of what a letter behind it says.
-/
import AliasShell.Files.Basic
import AliasShell.Files.Calendar
import AliasShell.Machine.Number.Quantity

namespace AliasShell.Dates

/-! ### Zones -/

/-- A zone: its name, and how many seconds its time is ahead of universal time. -/
structure Zone where
  name : Text
  ahead : Int := 0
  deriving Repr, DecidableEq

/-- Universal time. -/
def Zone.universal : Zone := ⟨"UTC".toList, 0⟩

/-- The zone that the value of a variable names: a name, and how far behind universal time it is. -/
def Zone.ofText (t : Text) : Zone :=
  let name := t.takeWhile Char.isAlpha
  let rest := t.drop name.length
  let (isBehind, rest) : Bool × Text := match rest with
    | '-' :: ds => (false, ds)
    | '+' :: ds => (true, ds)
    | ds => (true, ds)
  let numbers := (rest.cut (· == ':')).map fun piece =>
    if !piece.isEmpty && piece.all Char.isDigit then some (Integer.ofDigits piece) else none
  if name.length < 3 then .universal
  else
    let ahead : Int := match numbers with
      | [some h] => 3600 * h
      | [some h, some m] => 3600 * h + 60 * m
      | [some h, some m, some s] => 3600 * h + 60 * m + s
      | _ => 0
    ⟨name, if isBehind then -ahead else ahead⟩

/-! ### Moments as they are told -/

/-- A moment as it is told in a zone. -/
structure Stamp where
  date : Calendar.Date
  /-- the seconds since the beginning of the day -/
  second : Nat
  /-- the millionths of a second -/
  micros : Nat
  zone : Zone
  moment : Moment
  deriving Repr, DecidableEq

namespace Stamp

/-- How a moment is told in a zone. -/
def ofMoment (zone : Zone) (m : Moment) : Stamp :=
  let seconds := m.seconds + zone.ahead
  { date := Calendar.ofDays (seconds / 86400)
    second := (seconds % 86400).toNat
    micros := (m % 1000000).toNat
    zone, moment := m }

/-- The hour of the day. -/
def hour (s : Stamp) : Nat := s.second / 3600

/-- The minute of the hour. -/
def minute (s : Stamp) : Nat := s.second / 60 % 60

/-- The days since the beginning of 1970. -/
def days (s : Stamp) : Int := Calendar.daysOf s.date.year s.date.month s.date.day

/-- The day of the week, from 0 for Sunday on. -/
def weekday (s : Stamp) : Nat := ((s.days + 4) % 7).toNat

/-- The day of the year, from 1 on. -/
def yearday (s : Stamp) : Nat := (s.days - Calendar.daysOf s.date.year 1 1 + 1).toNat

/-- The week of the year, where weeks begin with a day of the week. -/
def week (first : Nat) (s : Stamp) : Nat := (s.yearday + 6 - (s.weekday + 7 - first) % 7) / 7

/-- The year that a week from Monday to Sunday belongs to, and its number there: that of the
year in which its Thursday lies. -/
def isoWeek (s : Stamp) : Int × Nat :=
  let thursday := s.days + 3 - ((s.weekday + 6) % 7 : Nat)
  let year := (Calendar.ofDays thursday).year
  (year, ((thursday - Calendar.daysOf year 1 1) / 7).toNat + 1)

end Stamp

/-- The names of the days of the week. -/
def dayNames : List String :=
  ["Sunday", "Monday", "Tuesday", "Wednesday", "Thursday", "Friday", "Saturday"]

/-- The names of the months. -/
def monthNames : List String :=
  ["January", "February", "March", "April", "May", "June", "July", "August", "September",
    "October", "November", "December"]

end AliasShell.Dates

namespace AliasShell.Moment

/-! ### Lengths of time -/

/-- The seconds that a letter behind a number stands for. -/
def units : List (Char × Nat) := [('s', 1), ('m', 60), ('h', 3600), ('d', 86400)]

/-- Longer than anything lasts. -/
def farAway : Moment := ofSeconds 1000000000

/-- The length of time that a text says. -/
def ofDuration? (t : Text) : Option Moment :=
  (Quantity.read? .extended t).bind fun r =>
    let unit? := match r.rest with
      | [] => some 1
      | [c] => units.lookup c
      | _ => none
    unit?.bind fun unit =>
      match r.value with
      | .infinite false => some farAway
      | .finite negative num den =>
        if negative && num != 0 then none
        else some (min farAway ((num * unit * 1000000 + (den - 1)) / den : Nat))
      | _ => none

end AliasShell.Moment
