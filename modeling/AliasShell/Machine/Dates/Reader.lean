/-
Moments from texts as people write them.

    text := '@' seconds | item*
    item := time | date | day of the week | zone | offset | number

Dates and times of day are told outright, at most one of each; offsets are added to them.  What is
told of neither is today, at the beginning of the day, or now if there are only offsets.  Numbers
with a sign behind a time of day are zones, and those behind a year are months and days.
-/
import AliasShell.Machine.Dates.Basic

namespace AliasShell.Dates

/-! ### Tokens -/

/-- What offsets are counted in. -/
inductive Span where
  | years
  | months
  | days
  | hours
  | minutes
  | seconds
  deriving Repr, DecidableEq

/-- A number as it is written. -/
structure Figure where
  /-- There is a sign, and it is a `-`. -/
  sign : Option Bool := none
  value : Nat
  digits : Nat
  /-- the millionths behind a point -/
  micros : Option Nat := none
  deriving Repr, DecidableEq

/-- The number with its sign. -/
def Figure.int (f : Figure) : Int := if f.sign = some true then -f.value else f.value

/-- The millionths of a number, whole ones and all. -/
def Figure.allMicros (f : Figure) : Int :=
  let n : Int := f.value * 1000000 + f.micros.getD 0
  if f.sign = some true then -n else n

/-- A token of a text. -/
inductive Token where
  | figure (f : Figure)
  /-- the first or second half of the day -/
  | half (isSecond : Bool)
  | month (n : Nat)
  | weekday (n : Nat)
  | span (s : Span) (times : Nat)
  | ordinal (n : Int)
  | shift (days : Int)
  /-- offsets go back, or not -/
  | direction (isBack : Bool)
  | zone (ahead : Int)
  | summer
  /-- a letter that stands between a date and a time, or for a zone -/
  | between
  | mark (c : Char)
  deriving Repr, DecidableEq

/-- Words for parts of the day. -/
def halves : List (String × Bool) := [("AM", false), ("A.M.", false), ("PM", true), ("P.M.", true)]

/-- Words for months and days that are no abbreviations by the rule. -/
def extraMonths : List (String × Nat) := [("SEPT", 9)]

/-- Words for days. -/
def extraDays : List (String × Nat) := [("TUES", 2), ("WEDNES", 3), ("THUR", 4), ("THURS", 4)]

/-- Words for spans of time. -/
def spans : List (String × Span × Nat) :=
  [("YEAR", .years, 1), ("MONTH", .months, 1), ("FORTNIGHT", .days, 14), ("WEEK", .days, 7),
    ("DAY", .days, 1), ("HOUR", .hours, 1), ("MINUTE", .minutes, 1), ("MIN", .minutes, 1),
    ("SECOND", .seconds, 1), ("SEC", .seconds, 1)]

/-- Words that stand before spans or days. -/
def ordinals : List (String × Int) :=
  [("LAST", -1), ("THIS", 0), ("NEXT", 1), ("FIRST", 1), ("THIRD", 3), ("FOURTH", 4), ("FIFTH", 5),
    ("SIXTH", 6), ("SEVENTH", 7), ("EIGHTH", 8), ("NINTH", 9), ("TENTH", 10), ("ELEVENTH", 11),
    ("TWELFTH", 12)]

/-- Words for days near today. -/
def shifts : List (String × Int) := [("TOMORROW", 1), ("YESTERDAY", -1), ("TODAY", 0), ("NOW", 0)]

/-- The names of zones, with the hours that they are ahead. -/
def zones : List (String × Int) :=
  [("GMT", 0), ("UT", 0), ("UTC", 0), ("WET", 0), ("WEST", 1), ("BST", 1), ("ART", -3), ("BRT", -3),
    ("BRST", -2), ("NDT", -2), ("AST", -4), ("ADT", -3), ("CLT", -4), ("CLST", -3), ("EST", -5),
    ("EDT", -4), ("CST", -6), ("CDT", -5), ("MST", -7), ("MDT", -6), ("PST", -8), ("PDT", -7),
    ("AKST", -9), ("AKDT", -8), ("HST", -10), ("HAST", -10), ("HADT", -9), ("SST", -11), ("WAT", 1),
    ("CET", 1), ("CEST", 2), ("MET", 1), ("MEZ", 1), ("MEST", 2), ("MESZ", 2), ("EET", 2),
    ("EEST", 3), ("CAT", 2), ("SAST", 2), ("EAT", 3), ("MSK", 3), ("MSD", 4), ("SGT", 8),
    ("JST", 9), ("GST", 10), ("NZST", 12), ("NZDT", 13)]

/-- The zone that one letter names. -/
def letterZone? (c : Char) : Option Token :=
  let n := c.toNat
  if c = 'Z' then some (.zone 0)
  else if c = 'T' then some .between
  else if 'A' ≤ c ∧ c ≤ 'I' then some (.zone (3600 * (n - 'A'.toNat + 1 : Nat)))
  else if 'K' ≤ c ∧ c ≤ 'M' then some (.zone (3600 * (n - 'K'.toNat + 10 : Nat)))
  else if 'N' ≤ c ∧ c ≤ 'Y' then some (.zone (-3600 * (n - 'N'.toNat + 1 : Nat)))
  else none

/-- The place of a name among names, where three letters or three and a point are enough. -/
def nameIndex? (names : List String) (word : Text) : Option Nat :=
  let isShort := word.length = 3 ∨ (word.length = 4 ∧ word.getLast? = some '.')
  names.findIdx? fun name =>
    let name := name.toList.map Char.toUpper
    if isShort then name.take 3 == word.take 3 else name == word

/-- The token that a word stands for. -/
def word? (t : Text) : Option Token :=
  let word := t.map Char.toUpper
  let s := String.ofList word
  let singular := if word.getLast? = some 'S' then String.ofList word.dropLast else s
  let found := [
    (halves.lookup s).map Token.half,
    (nameIndex? monthNames word).map fun n => .month (n + 1),
    (nameIndex? dayNames word).map .weekday,
    (extraMonths.lookup s).map .month,
    (extraDays.lookup s).map .weekday,
    (zones.lookup s).map fun h => .zone (3600 * h),
    if s = "DST" then some .summer else none,
    (spans.lookup s).map fun (span, n) => .span span n,
    (spans.lookup singular).map fun (span, n) => .span span n,
    (shifts.lookup s).map .shift,
    (ordinals.lookup s).map .ordinal,
    if s = "AGO" then some (.direction true) else none,
    if s = "HENCE" then some (.direction false) else none,
    match word with
      | [c] => letterZone? c
      | _ => none]
  found.findSome? id

/-- What is left behind a remark in parentheses, inside of which `depth` more are open. -/
def behindRemark : Nat → Text → Text
  | _, [] => []
  | depth, c :: cs =>
    if c = '(' then behindRemark (depth + 1) cs
    else if c = ')' then
      match depth with
      | 0 => cs
      | depth + 1 => behindRemark depth cs
    else behindRemark depth cs

/-- The number at the front of a text that begins with a digit, and what follows it. -/
def figure (sign : Option Bool) (t : Text) : Token × Text :=
  let ds := t.takeWhile Char.isDigit
  let rest := t.drop ds.length
  let plain : Figure := { sign, value := Integer.ofDigits ds, digits := ds.length }
  match rest with
  | p :: d :: more =>
    if (p = '.' ∨ p = ',') ∧ d.isDigit then
      let places := (d :: more).takeWhile Char.isDigit
      let micros := Integer.ofDigits ((places ++ List.replicate 6 '0').take 6)
      (.figure { plain with micros := some micros }, (d :: more).drop places.length)
    else (.figure plain, rest)
  | rest => (.figure plain, rest)

/-- The tokens of a text, unless a word stands for nothing; at most `n`. -/
def tokens : Nat → Text → Option (List Token)
  | 0, _ => some []
  | _, [] => some []
  | n + 1, c :: cs =>
    if c = ' ' ∨ ('\t' ≤ c ∧ c ≤ '\r') then tokens n cs
    else if c.isDigit then
      let (token, rest) := figure none (c :: cs)
      (tokens n rest).map (token :: ·)
    else if c = '-' ∨ c = '+' then
      let rest := cs.dropWhile fun c => c == ' ' || ('\t' ≤ c && c ≤ '\r')
      if rest.head?.any Char.isDigit then
        let (token, rest) := figure (some (c == '-')) rest
        (tokens n rest).map (token :: ·)
      else tokens n rest
    else if c.isAlpha then
      let word := (c :: cs).takeWhile fun c => c.isAlpha || c == '.'
      (word? word).bind fun token => (tokens n ((c :: cs).drop word.length)).map (token :: ·)
    else if c = '(' then tokens n (behindRemark 0 cs)
    else (tokens n cs).map (.mark c :: ·)

/-! ### What is told -/

/-- What was told of a moment so far. -/
structure Told where
  year : Int
  /-- how many digits the year has, if it was told -/
  yearDigits : Nat := 0
  month : Int
  day : Int
  hour : Int
  minute : Int
  second : Int
  micros : Int
  half : Option Bool := none
  zone : Int := 0
  weekday : Nat := 0
  ordinal : Int := 0
  /-- what is added -/
  years : Int := 0
  months : Int := 0
  days : Int := 0
  /-- in millionths of a second -/
  rest : Int := 0
  /-- how often each thing was told -/
  dates : Nat := 0
  times : Nat := 0
  weekdays : Nat := 0
  zones : Nat := 0
  offsets : Bool := false
  deriving Repr, DecidableEq

namespace Told

/-- A date. -/
def date (r : Told) (month day : Int) : Told := { r with month, day, dates := r.dates + 1 }

/-- A date with a year. -/
def fullDate (r : Told) (year : Int) (digits : Nat) (month day : Int) : Told :=
  { r.date month day with year, yearDigits := digits }

/-- A time of day. -/
def time (r : Told) (hour minute : Int) (second micros : Int) (half : Option Bool) : Told :=
  { r with hour, minute, second, micros, half, times := r.times + 1 }

/-- Something that is added. -/
def add (r : Told) (s : Span) (times : Int) (micros : Int) : Told :=
  let r := { r with offsets := true }
  match s with
  | .years => { r with years := r.years + times }
  | .months => { r with months := r.months + times }
  | .days => { r with days := r.days + times }
  | .hours => { r with rest := r.rest + 3600000000 * times }
  | .minutes => { r with rest := r.rest + 60000000 * times }
  | .seconds => { r with rest := r.rest + 1000000 * times + micros }

/-- A number that is nothing else: a year, a date or a time. -/
def number (r : Told) (f : Figure) : Told :=
  if r.dates != 0 ∧ r.yearDigits = 0 ∧ !r.offsets ∧ (r.times != 0 ∨ 2 < f.digits) then
    { r with year := f.value, yearDigits := f.digits }
  else if 4 < f.digits then
    r.fullDate (f.value / 10000 : Nat) (f.digits - 4) (f.value / 100 % 100 : Nat)
      (f.value % 100 : Nat)
  else if f.digits ≤ 2 then r.time f.value 0 0 0 none
  else r.time (f.value / 100 : Nat) (f.value % 100 : Nat) 0 0 none

/-- A zone that a number with a sign is, in hours or hours and minutes. -/
def offsetZone (r : Told) (base : Int) (f : Figure) (minutes : Option Nat) : Option Told :=
  let n : Int := match minutes with
    | some m => f.value * 60 + m
    | none => if f.digits ≤ 2 then f.value * 60 else (f.value / 100 * 60 + f.value % 100 : Nat)
  if 1440 < n then none
  else
    let ahead := 60 * (if f.sign = some true then -n else n)
    some { r with zone := base + ahead, zones := r.zones + 1 }

end Told

/-- Takes a zone that a number with a sign is, if one follows. -/
def zoneBehind (base : Int) (needed : Bool) (r : Told) (ts : List Token) :
    Option (Told × List Token) :=
  match ts with
  | .figure f :: rest =>
    if f.sign.isSome ∧ f.micros.isNone then
      match rest with
      | .mark ':' :: .figure m :: more =>
        if m.sign.isNone ∧ m.micros.isNone then
          (r.offsetZone base f (some m.value)).map (·, more)
        else (r.offsetZone base f none).map (·, rest)
      | rest => (r.offsetZone base f none).map (·, rest)
    else if needed then none
    else some (r, ts)
  | ts => if needed then none else some (r, ts)

/-- Takes the rest of a time of day behind its minutes. -/
def timeBehind (r : Told) (hour minute : Nat) (ts : List Token) : Option (Told × List Token) :=
  let (second, micros, ts) : Nat × Nat × List Token := match ts with
    | .mark ':' :: .figure s :: rest =>
      if s.sign.isNone then (s.value, s.micros.getD 0, rest) else (0, 0, ts)
    | ts => (0, 0, ts)
  match ts with
  | .half second' :: rest => some (r.time hour minute second micros (some second'), rest)
  | ts => zoneBehind 0 false (r.time hour minute second micros none) ts

/-- Takes an offset, which may go back. -/
def offset (r : Told) (n : Int) (micros : Int) (s : Span) (times : Nat) (ts : List Token) :
    Told × List Token :=
  match ts with
  | .direction isBack :: rest =>
    let sign : Int := if isBack then -1 else 1
    (r.add s (sign * n * times) (sign * micros), rest)
  | ts => (r.add s (n * times) micros, ts)

/-- Takes a zone, and an offset or a further zone behind it. -/
def zone (r : Told) (ahead : Int) (ts : List Token) : Option (Told × List Token) :=
  let plain : Told := { r with zone := ahead, zones := r.zones + 1 }
  match ts with
  | .figure f :: .span s times :: rest =>
    if f.sign.isSome ∧ f.micros.isNone then some (offset plain f.int 0 s times rest)
    else some (plain, ts)
  | .summer :: rest => some ({ plain with zone := ahead + 3600 }, rest)
  | ts =>
    match ts with
    | .figure f :: _ => if f.sign.isSome then zoneBehind ahead true r ts else some (plain, ts)
    | ts => some (plain, ts)

/-- Takes a date that begins with a year, and a time behind it if a letter joins them. -/
def isoDate (r : Told) (y m d : Figure) (ts : List Token) : Option (Told × List Token) :=
  let r := r.fullDate y.value y.digits m.value d.value
  match ts with
  | .between :: .figure h :: .mark ':' :: .figure m :: rest =>
    timeBehind r h.value m.value rest
  | .between :: .figure h :: .figure z :: rest =>
    if h.sign.isNone ∧ z.sign.isSome then
      zoneBehind 0 true (r.time h.value 0 0 0 none) (.figure z :: rest)
    else some (r, ts)
  | ts => some (r, ts)

/-- Takes what begins with a number without a sign. -/
def behindFigure (r : Told) (f : Figure) (ts : List Token) : Option (Told × List Token) :=
  let isPlain (g : Figure) : Bool := g.sign.isNone && g.micros.isNone
  match ts with
  | .mark ':' :: .figure m :: rest =>
    if isPlain m then timeBehind r f.value m.value rest else none
  | .half second' :: rest => some (r.time f.value 0 0 0 (some second'), rest)
  | .mark '/' :: .figure m :: .mark '/' :: .figure d :: rest =>
    if !isPlain m || !isPlain d then none
    else if 4 ≤ f.digits then some (r.fullDate f.value f.digits m.value d.value, rest)
    else some (r.fullDate d.value d.digits f.value m.value, rest)
  | .mark '/' :: .figure d :: rest =>
    if isPlain d then some (r.date f.value d.value, rest) else none
  | .month m :: .figure y :: rest =>
    if y.micros.isSome ∨ y.sign = some false then some (r.date m f.value, .figure y :: rest)
    else some (r.fullDate y.value y.digits m f.value, rest)
  | .month m :: rest => some (r.date m f.value, rest)
  | .weekday d :: rest =>
    some ({ r with weekday := d, ordinal := f.value, weekdays := r.weekdays + 1 }, rest)
  | .span s times :: rest => some (offset r f.value 0 s times rest)
  | .figure m :: .figure d :: rest =>
    if m.sign = some true ∧ d.sign = some true ∧ m.micros.isNone ∧ d.micros.isNone then
      isoDate r f m d rest
    else if m.sign.isSome then zoneBehind 0 true (r.time f.value 0 0 0 none) ts
    else some (r.number f, ts)
  | .figure m :: .span s times :: rest =>
    if m.sign.isSome ∧ m.micros.isNone then some (offset (r.number f) m.int 0 s times rest)
    else some (r.number f, ts)
  | .figure m :: rest =>
    if m.sign.isSome then
      if f.digits ≤ 2 then zoneBehind 0 true (r.time f.value 0 0 0 none) (.figure m :: rest)
      else none
    else some (r.number f, ts)
  | ts => some (r.number f, ts)

/-- Takes one item. -/
def item (r : Told) : List Token → Option (Told × List Token)
  | [] => some (r, [])
  | .figure f :: ts =>
    match f.micros, f.sign, ts with
    | some m, _, .span .seconds times :: rest =>
      let micros : Int := if f.sign = some true then -m else m
      some (offset r f.int micros .seconds times rest)
    | some _, _, _ => none
    | none, none, ts => behindFigure r f ts
    | none, some _, .span s times :: rest => some (offset r f.int 0 s times rest)
    | none, some _, _ => none
  | .month m :: .figure d :: .mark ',' :: .figure y :: rest =>
    some (r.fullDate y.value y.digits m d.value, rest)
  | .month m :: .figure d :: .figure y :: rest =>
    if d.sign = some true ∧ y.sign = some true then
      some (r.fullDate y.value y.digits m d.value, rest)
    else if d.sign.isNone then some (r.date m d.value, .figure y :: rest)
    else none
  | .month m :: .figure d :: rest => if d.sign.isNone then some (r.date m d.value, rest) else none
  | .weekday d :: .mark ',' :: rest =>
    some ({ r with weekday := d, weekdays := r.weekdays + 1 }, rest)
  | .weekday d :: rest => some ({ r with weekday := d, weekdays := r.weekdays + 1 }, rest)
  | .ordinal n :: .weekday d :: rest =>
    some ({ r with weekday := d, ordinal := n, weekdays := r.weekdays + 1 }, rest)
  | .ordinal n :: .span s times :: rest => some (offset r n 0 s times rest)
  | .span s times :: rest => some (offset r 1 0 s times rest)
  | .shift n :: rest => some (r.add .days n 0, rest)
  | .zone ahead :: rest => zone r ahead rest
  | .between :: rest => zone r (-25200) rest
  | _ => none

/-- Takes all items; at most `n`. -/
def items : Nat → Told → List Token → Option Told
  | _, r, [] => some r
  | 0, _, _ => none
  | n + 1, r, ts => (item r ts).bind fun (r, rest) => items n r rest

/-! ### The moment -/

/-- The hour of the day, if there is one. -/
def Told.hour? (r : Told) : Option Int :=
  match r.half with
  | none => if r.hour < 24 then some r.hour else none
  | some second' =>
    if r.hour < 1 ∨ 12 < r.hour then none
    else
      let base := if r.hour = 12 then 0 else r.hour
      some (if second' then base + 12 else base)

/-- The year that two digits stand for. -/
def Told.fullYear (r : Told) : Int :=
  if r.yearDigits = 2 then r.year + if r.year < 69 then 2000 else 1900 else r.year

/-- The moment that was told, in a zone. -/
def Told.moment? (zone : Zone) (r : Told) : Option Moment := do
  if 1 < r.dates ∨ 1 < r.times ∨ 1 < r.weekdays ∨ 1 < r.zones then failure
  let hasTime := r.times != 0 || (r.offsets && r.dates == 0 && r.weekdays == 0)
  let (hour, minute, second, micros) ←
    if hasTime then r.hour?.map fun h => (h, r.minute, r.second, r.micros) else some (0, 0, 0, 0)
  if 59 < minute ∨ 59 < second then failure
  let year := r.fullYear
  if r.month < 1 ∨ 12 < r.month ∨ r.day < 1 then failure
  let days := Calendar.daysOf year r.month r.day
  if (Calendar.ofDays days).day != r.day.toNat then failure
  let ahead : Int :=
    if r.weekdays != 0 ∧ r.dates = 0 then
      let today := (days + 4) % 7
      let skip : Int := if 0 < r.ordinal ∧ today != r.weekday then 1 else 0
      (r.ordinal - skip) * 7 + (r.weekday - today + 7) % 7
    else 0
  let days := if r.years = 0 ∧ r.months = 0 ∧ r.days = 0 then days + ahead
    else
      let date := Calendar.ofDays (days + ahead)
      Calendar.daysOf (date.year + r.years) (date.month + r.months) (date.day + r.days)
  let seconds := days * 86400 + hour * 3600 + minute * 60 + second
  let seconds := seconds - if r.zones != 0 then r.zone else zone.ahead
  if seconds.natAbs < Nat.pow 10 17 then
    return Moment.ofSeconds seconds + micros + r.rest
  else failure

/-- The moment that a text tells of at some other moment, in a zone. -/
def read? (zone : Zone) (now : Moment) (t : Text) : Option Moment := do
  let blank (c : Char) : Bool := c == ' ' || ('\t' ≤ c && c ≤ '\r')
  match t.dropWhile blank with
  | '@' :: rest =>
    match ← tokens (rest.length + 1) rest with
    | [.figure f] => return f.allMicros
    | _ => failure
  | t =>
    let ts ← tokens (t.length + 1) t
    let s := Stamp.ofMoment zone now
    let start : Told :=
      { year := s.date.year, month := s.date.month, day := s.date.day, hour := s.hour
        minute := s.minute, second := (s.second % 60 : Nat), micros := s.micros }
    let r ← items (ts.length + 1) start ts
    r.moment? zone

/-! ### Digits alone -/

/-- The moment that pairs of digits tell of: month, day, hour and minute, with or without a year in
front of them or behind them, and perhaps seconds behind a point. -/
def ofPairs? (zone : Zone) (now : Moment) (yearLast : Bool) (t : Text) : Option Moment := do
  let (body, second) ← match t.cutFirst (· == '.') with
    | none => some (t, 0)
    | some (body, ds) =>
      if ds.length = 2 ∧ ds.all Char.isDigit then some (body, Integer.ofDigits ds) else none
  if !(body.all Char.isDigit) ∨ body.length % 2 != 0 ∨ body.length < 8 ∨ 12 < body.length then
    failure
  let rest := if yearLast then body.take 8 else body.drop (body.length - 8)
  let year := if yearLast then body.drop 8 else body.take (body.length - 8)
  let pair (i : Nat) : Int := Integer.ofDigits ((rest.drop (2 * i)).take 2)
  let written := Integer.ofDigits year
  let fullYear : Int := match year.length with
    | 0 => (Stamp.ofMoment zone now).date.year
    | 2 => written + if written < 69 then 2000 else 1900
    | _ => written
  let told : Told :=
    { year := fullYear, month := pair 0, day := pair 1, hour := pair 2, minute := pair 3, second
      micros := 0, dates := 1, times := 1 }
  told.moment? zone

example : read? .universal 0 "2020-02-28 +2 days".toList = some (.ofSeconds 1583020800) := by
  decide +kernel

end AliasShell.Dates
