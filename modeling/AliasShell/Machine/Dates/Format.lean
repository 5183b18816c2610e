/-
Texts of moments in a format.

    item := '%' flag* digit* letter

A flag says what fills a piece up, and which case its letters have; digits say how wide it is.
What no letter stands for is written as it is.
-/
import AliasShell.Machine.Dates.Basic

namespace AliasShell.Dates

/-- What is asked of a piece. -/
structure Wish where
  /-- what fills it up; nothing for `-` -/
  filler : Option Char := none
  width : Option Nat := none
  upper : Bool := false
  /-- letters in the other case -/
  swaps : Bool := false
  /-- points between the parts of a zone -/
  points : Nat := 0
  deriving Repr, DecidableEq

namespace Wish

/-- Capital letters. -/
def raise (t : Text) : Text := t.map Char.toUpper

/-- A text that is filled up, in the case that is asked for. -/
def word (w : Wish) (t : Text) : Text :=
  let t := if w.upper then raise t else t
  let fill := match w.filler with
    | some '0' => '0'
    | _ => ' '
  match w.filler with
  | some '-' => t
  | _ => List.replicate (w.width.getD 0 - t.length) fill ++ t

/-- The digits of a number that is filled up, with `usual` in front of it up to so many digits. -/
def number (w : Wish) (usual : Char) (size : Nat) (n : Int) : Text :=
  let ds := Integer.digits n.natAbs
  let sign : Text := if n < 0 then ['-'] else []
  let width := max (w.width.getD size) (if w.width.isSome then 0 else size)
  let missing := width - (ds.length + sign.length)
  match w.filler.getD usual with
  | '-' => sign ++ ds
  | '0' => sign ++ List.replicate missing '0' ++ ds
  | '+' => sign ++ List.replicate missing '0' ++ ds
  | _ => List.replicate missing ' ' ++ sign ++ ds

/-- How far a zone is ahead, in hours and minutes with as many points between as are asked for. -/
def zone (w : Wish) (ahead : Int) : Text :=
  let n := ahead.natAbs
  let sign := if ahead < 0 then '-' else '+'
  let h := Calendar.padded 2 (n / 3600)
  let m := Calendar.padded 2 (n / 60 % 60)
  let s := Calendar.padded 2 (n % 60)
  let body : Text := match w.points with
    | 0 => h ++ m
    | 1 => h ++ ':' :: m
    | 2 => h ++ ':' :: m ++ ':' :: s
    | _ =>
      if n % 60 != 0 then h ++ ':' :: m ++ ':' :: s
      else if n / 60 % 60 != 0 then h ++ ':' :: m
      else h
  let missing := w.width.getD 0 - (body.length + 1)
  match w.filler with
  | some '_' => List.replicate missing ' ' ++ sign :: body
  | some '-' => sign :: body
  | _ => sign :: List.replicate missing '0' ++ body

/-- The parts of a second, in as many digits as are asked for. -/
def fraction (w : Wish) (micros : Nat) : Text :=
  let ds := Calendar.padded 6 micros ++ "000".toList
  let size := w.width.getD 9
  match w.filler with
  | some '_' =>
    let shown := ds.take size
    let bare := shown.take 1 ++ ((shown.drop 1).reverse.dropWhile (· == '0')).reverse
    bare ++ List.replicate (size - bare.length) ' '
  | _ => ds.take size ++ List.replicate (size - 9) '0'

end Wish

/-- The hour of half a day, from 1 to 12. -/
def halfHour (s : Stamp) : Nat := (s.hour + 11) % 12 + 1

/-- The text that a letter stands for, if it is a piece of its own. -/
def piece? (s : Stamp) (w : Wish) (c : Char) : Option Text :=
  let day := ((dayNames[s.weekday]?).getD "").toList
  let month := ((monthNames[s.date.month - 1]?).getD "").toList
  let name (t : Text) : Text := { w with upper := w.upper || w.swaps }.word t
  let half := if s.hour < 12 then "AM".toList else "PM".toList
  let low (t : Text) : Text := t.map Char.toLower
  match c with
  | '%' => some (w.word ['%'])
  | 'n' => some (w.word ['\n'])
  | 't' => some (w.word ['\t'])
  | 'a' => some (name (day.take 3))
  | 'A' => some (name day)
  | 'b' | 'h' => some (name (month.take 3))
  | 'B' => some (name month)
  | 'C' => some (w.number '0' 2 (s.date.year / 100))
  | 'd' => some (w.number '0' 2 s.date.day)
  | 'e' => some (w.number '_' 2 s.date.day)
  | 'g' => some (w.number '0' 2 (s.isoWeek.1 % 100))
  | 'G' => some (w.number '0' 4 s.isoWeek.1)
  | 'H' => some (w.number '0' 2 s.hour)
  | 'I' => some (w.number '0' 2 (halfHour s))
  | 'j' => some (w.number '0' 3 s.yearday)
  | 'k' => some (w.number '_' 2 s.hour)
  | 'l' => some (w.number '_' 2 (halfHour s))
  | 'm' => some (w.number '0' 2 s.date.month)
  | 'M' => some (w.number '0' 2 s.minute)
  | 'N' => some (w.fraction s.micros)
  | 'p' => some (w.word (if w.swaps then low half else half))
  | 'P' => some (w.word (low half))
  | 'q' => some (w.number '0' 1 ((s.date.month + 2) / 3 : Nat))
  | 's' => some (w.number '0' 1 s.moment.seconds)
  | 'S' => some (w.number '0' 2 (s.second % 60 : Nat))
  | 'u' => some (w.number '0' 1 ((s.weekday + 6) % 7 + 1 : Nat))
  | 'U' => some (w.number '0' 2 (s.week 0))
  | 'V' => some (w.number '0' 2 s.isoWeek.2)
  | 'w' => some (w.number '0' 1 s.weekday)
  | 'W' => some (w.number '0' 2 (s.week 1))
  | 'y' => some (w.number '0' 2 (s.date.year % 100))
  | 'Y' => some (w.number '0' 4 s.date.year)
  | 'z' => some (w.zone s.zone.ahead)
  | 'Z' => some (w.word (if w.swaps then low s.zone.name else s.zone.name))
  | _ => none

/-- The format that a letter stands for, if it is several pieces. -/
def several? (c : Char) : Option Text :=
  match c with
  | 'c' => some "%a %b %e %H:%M:%S %-Y".toList
  | 'D' | 'x' => some "%m/%d/%y".toList
  | 'F' => some "%+4Y-%m-%d".toList
  | 'r' => some "%I:%M:%S %p".toList
  | 'R' => some "%H:%M".toList
  | 'T' | 'X' => some "%H:%M:%S".toList
  | _ => none

/-- What is asked of a piece, and what follows that. -/
def wish : Wish → Text → Wish × Text
  | w, [] => (w, [])
  | w, c :: cs =>
    if "_-0+".toList.contains c then wish { w with filler := some c } cs
    else if c = '^' then wish { w with upper := true } cs
    else if c = '#' then wish { w with swaps := true } cs
    else (w, c :: cs)

/-- What stands behind a `%`: what is asked for and the letter, and what follows them. -/
def item? (t : Text) : Option (Wish × Char × Text) :=
  let (w, rest) := wish {} t
  let ds := rest.takeWhile Char.isDigit
  let w := if ds.isEmpty then w else { w with width := some (min 4096 (Integer.ofDigits ds)) }
  let rest := rest.drop ds.length
  let rest := match rest with
    | 'E' :: rest => rest
    | 'O' :: rest => rest
    | rest => rest
  let points := (rest.takeWhile (· == ':')).length
  match rest.drop points with
  | c :: rest => if points = 0 ∨ c = 'z' then some ({ w with points }, c, rest) else none
  | [] => none

/-- A moment in a format without letters that are several pieces; at most `n` characters. -/
def plainText (s : Stamp) : Nat → Text → Text
  | 0, _ => []
  | _, [] => []
  | n + 1, '%' :: cs =>
    match item? cs with
    | some (w, c, rest) =>
      match piece? s w c with
      | some t =>
        let plus := c == 'Y' && w.filler == some '+' && 9999 < s.date.year
        (if plus then '+' :: t else t) ++ plainText s n rest
      | none => '%' :: cs.take (cs.length - rest.length) ++ plainText s n rest
    | none => '%' :: plainText s n cs
  | n + 1, c :: cs => c :: plainText s n cs

/-- A moment in a format; at most `n` characters. -/
def textOf (s : Stamp) : Nat → Text → Text
  | 0, _ => []
  | _, [] => []
  | n + 1, '%' :: cs =>
    let one : Text := '%' :: match item? cs with
      | some (_, _, rest) => cs.take (cs.length - rest.length)
      | none => []
    match item? cs with
    | some (w, c, rest) =>
      match several? c with
      | some format =>
        { w with upper := w.upper }.word (plainText s format.length format) ++ textOf s n rest
      | none => plainText s one.length one ++ textOf s n rest
    | none => '%' :: textOf s n cs
  | n + 1, c :: cs => c :: textOf s n cs

/-- A moment in a format. -/
def Stamp.text (s : Stamp) (format : Text) : Text := textOf s format.length format

example : (Stamp.ofMoment .universal 0).text "%a %b %e %H:%M:%S %Z %Y".toList
    = "Thu Jan  1 00:00:00 UTC 1970".toList := by decide +kernel

example : (Stamp.ofMoment .universal (.ofSeconds 1609459199)).text "%F %j %G-W%V %^b %-I%P".toList
    = "2020-12-31 366 2020-W53 DEC 11pm".toList := by decide +kernel

end AliasShell.Dates
