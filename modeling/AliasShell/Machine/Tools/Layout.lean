/-
Tools that lay lines out: in a width, with tabs or without them, or with numbers in front.
-/
import AliasShell.Machine.Regex.Matcher
import AliasShell.Machine.Tools.Basic

namespace AliasShell.Tools

namespace Layout

/-! ### Widths -/

/-- The column after a byte. -/
def nextColumn (inBytes : Bool) (column : Nat) (b : UInt8) : Nat :=
  if inBytes then column + 1
  else if b = 8 then column - 1
  else if b = 13 then 0
  else if b = 9 then column + 8 - column % 8
  else column + 1

/-- A line that is being filled: what it holds, the last byte first, and its column. -/
structure Filling where
  held : Bytes
  column : Nat

/-- The column behind bytes. -/
def columnOf (inBytes : Bool) (b : Bytes) : Nat := b.foldl (nextColumn inBytes) 0

/-- A line with one more byte, and the lines before it that are full; at most `n`. -/
def fill (inBytes atBlanks : Bool) (width : Nat) : Nat → Filling → UInt8 → List Bytes × Filling
  | 0, f, b => ([], { f with held := b :: f.held })
  | n + 1, f, b =>
    let column := nextColumn inBytes f.column b
    if column ≤ width then ([], ⟨b :: f.held, column⟩)
    else
      let isBlank (x : UInt8) : Bool := x == 32 || x == 9
      let behind := f.held.takeWhile fun x => !isBlank x
      if atBlanks ∧ behind.length < f.held.length then
        let rest := ⟨behind, columnOf inBytes behind.reverse⟩
        let (full, last) := fill inBytes atBlanks width n rest b
        ((f.held.drop behind.length).reverse :: full, last)
      else if f.held.isEmpty then ([], ⟨[b], column⟩)
      else
        let (full, last) := fill inBytes atBlanks width n ⟨[], 0⟩ b
        (f.held.reverse :: full, last)

/-- A line cut into lines of a width. -/
def folded (inBytes atBlanks : Bool) (width : Nat) (line : Bytes) : List Bytes :=
  let (done, last) := line.foldl
    (fun (done, f) b =>
      let (full, f) := fill inBytes atBlanks width (f.held.length + 2) f b
      (full.reverse ++ done, f))
    (([] : List Bytes), (⟨[], 0⟩ : Filling))
  (last.held.reverse :: done).reverse

/-- Bytes with each line made into others; the last one only has an end if it has one now. -/
def overLines (f : Bytes → Bytes) (b : Bytes) : Bytes :=
  let written := unlines (b.lines.map f)
  if b.getLast? = some 10 then written else written.dropLast

/-! ### Tab stops -/

/-- Where tabs lead to. -/
structure Stops where
  /-- the columns of the first stops -/
  columns : List Nat
  /-- the distance of those after them, from the beginning of the line -/
  every : Option Nat
  /-- the distance of those after them, from the last one -/
  further : Option Nat
  deriving Repr, DecidableEq

/-- The stops that nobody has asked for. -/
def Stops.usual : Stops := ⟨[], some 8, none⟩

/-- The first stop behind a column. -/
def Stops.next? (s : Stops) (column : Nat) : Option Nat :=
  match s.columns.find? (column < ·) with
  | some stop => some stop
  | none =>
    match s.every, s.further with
    | some n, _ => some (column + (n - column % n))
    | none, some n => some (column + (n - (column - s.columns.getLastD 0) % n))
    | none, none => none

/-- One stop of a list: a column, or a distance. -/
inductive Stop where
  | column (n : Nat)
  | every (n : Nat)
  | further (n : Nat)
  deriving Repr, DecidableEq

/-- The stops of a list, with its faults. -/
def readStops (t : Text) : List Stop × List Text := Id.run do
  let mut stops : List Stop := []
  let mut faults : List Text := []
  let mut sign : Option Char := none
  let mut digits : Text := []
  let mut rest := t ++ [',']
  for c in t ++ [','] do
    if c = ',' ∨ c = ' ' ∨ c = '\t' then
      if !digits.isEmpty then
        let n := Integer.ofDigits digits
        if Nat.pow 2 64 ≤ n then
          faults := faults ++ ["tab stop is too large ".toList ++ Quoting.cited digits]
        stops := stops ++ [match sign with
          | some '/' => .every n
          | some _ => .further n
          | none => .column n]
      digits := []
    else if c = '/' ∨ c = '+' then
      if !digits.isEmpty then
        faults := faults ++ ['\'' :: c :: "' specifier not at start of number: ".toList ++
          Quoting.cited rest.dropLast]
      sign := some c
    else if c.isDigit then digits := digits ++ [c]
    else
      faults := faults ++ ["tab size contains invalid character(s): ".toList ++
        Quoting.cited rest.dropLast]
      return (stops, faults)
    rest := rest.drop 1
  return (stops, faults)

/-- The stops as one, unless they cannot be. -/
def Stops.ofList (stops : List Stop) : Except Text Stops := do
  let columns := stops.filterMap fun
    | .column n => some n
    | _ => none
  let every := (stops.filterMap fun
    | .every n => some n
    | _ => none).getLast?
  let further := (stops.filterMap fun
    | .further n => some n
    | _ => none).getLast?
  if columns.contains 0 then throw "tab size cannot be 0".toList
  if (columns.zip (columns.drop 1)).any fun (a, b) => b ≤ a then
    throw "tab sizes must be ascending".toList
  let every := every.filter (· != 0)
  let further := further.filter (· != 0)
  if every.isSome && further.isSome then
    throw "'/' specifier is mutually exclusive with '+'".toList
  match columns, every, further with
  | [], none, none => return Stops.usual
  | [], none, some n => return ⟨[], some n, none⟩
  | [n], none, none => return ⟨[], some n, none⟩
  | columns, every, further => return ⟨columns, every, further⟩

/-- The stops that lists ask for. -/
def Stops.ofLists (p : Process) (lists : List Text) : Except Aftermath Stops := do
  let read := lists.map readStops
  if let some (_, faults) := read.find? fun r => !r.2.isEmpty then
    throw (p.leave 1 (faults.map p.complaint))
  match Stops.ofList (read.flatMap (·.1)) with
  | .ok stops => return stops
  | .error t => failWith p 1 t

/-- A line with blanks in place of tabs; `leading` leaves those behind other bytes. -/
def withoutTabs (s : Stops) (leading : Bool) (line : Bytes) : Bytes :=
  (line.foldl
    (fun (out, column, goesOn) b =>
      if !goesOn then (b :: out, column, false)
      else
        let goesOn := !leading || b == 32 || b == 9
        if b = 9 then
          let stop := (s.next? column).getD (column + 1)
          (List.replicate (stop - column) 32 ++ out, stop, goesOn)
        else if b = 8 then (b :: out, column - 1, goesOn)
        else (b :: out, column + 1, goesOn))
    (([] : Bytes), 0, true)).1.reverse

/-- What is known of a line whose blanks become tabs. -/
structure Tabbing where
  out : Bytes := []
  column : Nat := 0
  /-- blanks that may yet become a tab, the last one first -/
  pending : Bytes := []
  /-- The first blank that is pending stands right before a stop. -/
  atStop : Bool := false
  afterBlank : Bool := true
  goesOn : Bool := true

/-- The pending blanks are written, and a byte after them. -/
def Tabbing.write (t : Tabbing) (b : UInt8) : Tabbing :=
  let pending := if 1 < t.pending.length && t.atStop then t.pending.dropLast ++ [9] else t.pending
  { t with out := b :: pending ++ t.out, pending := [], atStop := false }

/-- A line whose blanks become tabs, with one more byte; `whole` goes on behind other bytes. -/
def Tabbing.step (s : Stops) (whole : Bool) (t : Tabbing) (b : UInt8) : Tabbing :=
  if !t.goesOn then { t with out := b :: t.out }
  else
    let isBlank := b == 32 || b == 9
    let after (t : Tabbing) : Tabbing :=
      { t with afterBlank := isBlank, goesOn := whole || isBlank }
    match isBlank, s.next? t.column with
    | true, none => { t.write b with goesOn := false, afterBlank := true }
    | true, some stop =>
      if b = 9 then
        let pending : Bytes := t.pending.dropLast ++ (if t.pending.isEmpty then [] else [9])
        let kept := if t.atStop then pending.drop (pending.length - 1) else []
        after ({ t with column := stop, pending := kept, atStop := t.atStop }.write 9)
      else
        let column := t.column + 1
        if !(t.afterBlank && column = stop) then
          { t with column, pending := 32 :: t.pending, atStop := t.atStop || column == stop
                   afterBlank := true }
        else
          let kept : Bytes := if t.atStop then [9] else []
          after ({ t with column, pending := kept }.write 9)
    | false, _ =>
      let column := if b = 8 then t.column - 1 else t.column + 1
      after ({ t with column }.write b)

/-- A line with tabs in place of blanks. -/
def withTabs (s : Stops) (whole : Bool) (line : Bytes) : Bytes :=
  let t := line.foldl (Tabbing.step s whole) {}
  (t.write 10).out.reverse.dropLast

/-- The lists of stops among options, each of which may begin with the letter of an option. -/
def stopLists (a : Asked) : List Text :=
  a.options.filterMap fun (c, t) =>
    if c = 't' then some t else if c.isDigit then some (c :: t) else none

/-! ### Numbers in front of lines -/

/-- Which lines of a part of a page have numbers. -/
inductive Numbered where
  | all
  | full
  | none
  | matching (m : Matcher)

/-- The parts of a page. -/
inductive Part where
  | header
  | body
  | footer
  deriving Repr, DecidableEq

/-- How lines are numbered. -/
structure Numbering where
  styles : Part → Numbered
  mark : Bytes
  step : Int
  start : Int
  width : Nat
  between : Bytes
  /-- digits begin at the left side, or have zeros in front -/
  toLeft : Bool
  zeros : Bool
  /-- how many empty lines count as one -/
  join : Nat
  goesOn : Bool

/-- The text of a number. -/
def Numbering.text (f : Numbering) (n : Int) : Bytes :=
  let ds := Integer.digits n.natAbs
  let sign : Text := if n < 0 then ['-'] else []
  let fillers := f.width - (ds.length + sign.length)
  Text.bytes <|
    if f.toLeft then sign ++ ds ++ List.replicate fillers ' '
    else if f.zeros then sign ++ List.replicate fillers '0' ++ ds
    else List.replicate fillers ' ' ++ sign ++ ds

/-- What numbering has come to. -/
structure Page where
  next : Int
  part : Part := .body
  empty : Nat := 0
  out : List Bytes := []

/-- The part that a line begins. -/
def Numbering.part? (f : Numbering) (line : Bytes) : Option Part :=
  if f.mark.isEmpty then none
  else if line = f.mark ++ f.mark ++ f.mark then some .header
  else if line = f.mark ++ f.mark then some .body
  else if line = f.mark then some .footer
  else none

/-- One more line. -/
def Numbering.step1 (f : Numbering) (s : Page) (line : Bytes) : Page :=
  match f.part? line with
  | some part =>
    { s with part, next := if f.goesOn then s.next else f.start, out := [] :: s.out }
  | none =>
    let with_ (s : Page) : Page :=
      { s with next := s.next + f.step, out := (f.text s.next ++ f.between ++ line) :: s.out }
    let without (s : Page) : Page :=
      { s with out := (List.replicate (f.width + f.between.length) 32 ++ line) :: s.out }
    match f.styles s.part with
    | .all =>
      if f.join ≤ 1 then with_ s
      else if !line.isEmpty || s.empty + 1 == f.join then { with_ s with empty := 0 }
      else without { s with empty := s.empty + 1 }
    | .full => if line.isEmpty then without s else with_ s
    | .none => without s
    | .matching m => if m.isIn line.toArray then with_ s else without s

/-- A style, unless it is none. -/
def numbered? (t : Text) : Option (Except Text Numbered) :=
  match t with
  | 'a' :: _ => some (.ok .all)
  | 't' :: _ => some (.ok .full)
  | 'n' :: _ => some (.ok .none)
  | 'p' :: re =>
    some (match Regex.read Regex.Dialect.basic re with
      | .ok r => .ok (.matching (Matcher.ofRegex false false false r))
      | .error e => .error e.message)
  | _ => none

/-- The letters that are known. -/
def nlLetters : Letters :=
  { plain := "p", valued := "bdfhilnsvw"
    long := [("header-numbering", 'h'), ("body-numbering", 'b'), ("footer-numbering", 'f'),
      ("starting-line-number", 'v'), ("line-increment", 'i'), ("no-renumber", 'p'),
      ("join-blank-lines", 'l'), ("number-separator", 's'), ("number-width", 'w'),
      ("number-format", 'n'), ("section-delimiter", 'd')] }

/-- How lines are numbered, as it is asked for. -/
def Numbering.ofAsked (p : Process) (a : Asked) : Except Aftermath Numbering := do
  let wrong (t : Text) : Channel × Bytes := p.complaint t
  let mut faults : List (Channel × Bytes) := []
  for (c, t) in a.options do
    let part : String := if c = 'h' then "header" else if c = 'b' then "body" else "footer"
    if "hbf".toList.contains c then
      match numbered? t with
      | none => faults := faults ++ [wrong ("invalid ".toList ++ part.toList ++
          " numbering style: ".toList ++ Quoting.cited t)]
      | some (.error e) => failWith p 1 e
      | some (.ok _) => pure ()
    if c = 'n' ∧ ["ln", "rn", "rz"].all (·.toList != t) then
      faults := faults ++ [wrong ("invalid line numbering format: ".toList ++ Quoting.cited t)]
  let number (c : Char) (what : String) (least most usual : Int) : Except Aftermath Int :=
    match a.value? c with
    | none => .ok usual
    | some t => (bounded what true least most t).mapError (p.refuse 1)
  let start ← number 'v' "invalid starting line number" (-mostCount - 1) mostCount 1
  let step ← number 'i' "invalid line number increment" (-mostCount - 1) mostCount 1
  let join ← number 'l' "invalid line number of blank lines" 1 mostCount 1
  let width ← number 'w' "invalid line number field width" 1 2147483647 6
  if !faults.isEmpty then throw (p.leave 1 (faults ++ [hint p]))
  let style (c : Char) (usual : Numbered) : Numbered :=
    match (a.value? c).bind numbered? with
    | some (.ok s) => s
    | _ => usual
  let styles : Part → Numbered := fun
    | .header => style 'h' .none
    | .body => style 'b' .full
    | .footer => style 'f' .none
  let mark : Text := match a.value? 'd' with
    | none => "\\:"
    | some [c] => [c, ':']
    | some t => t
  return { styles, mark := Text.bytes mark, step, start, width := width.toNat
           between := Text.bytes ((a.value? 's').getD ['\t'])
           toLeft := a.value? 'n' = some "ln".toList, zeros := a.value? 'n' = some "rz".toList
           join := join.toNat, goesOn := a.has 'p' }

end Layout

open Layout in
/-- Lines in a width. -/
def fold : Tool :=
  taking
    { plain := "bs", valued := "w", loose := "0123456789"
      long := [("bytes", 'b'), ("spaces", 's'), ("width", 'w')] }
    1 fun p a => settle do
      let given := a.options.filterMap fun (c, t) =>
        if c = 'w' then some t else if c.isDigit then some (c :: t) else none
      let widths ← (given.mapM (bounded "invalid number of columns" false 1 (2 * mostCount - 7)))
        |>.mapError (p.refuse 1)
      let width := (widths.getLastD 80).toNat
      return overContents p a.operands fileFault fun b =>
        let out := unlines (b.lines.flatMap (folded (a.has 'b') (a.has 's') width))
        if b.getLast? = some 10 then out else out.dropLast

open Layout in
/-- Blanks in place of tabs. -/
def expand : Tool :=
  taking
    { plain := "i", valued := "t", loose := "0123456789"
      long := [("tabs", 't'), ("initial", 'i')] }
    1 fun p a => settle do
      let stops ← Stops.ofLists p (stopLists a)
      return overContents p a.operands fileFault (overLines (withoutTabs stops (a.has 'i')))

open Layout in
/-- Tabs in place of blanks. -/
def unexpand : Tool :=
  taking
    { plain := "aφ", valued := "t", loose := "0123456789"
      long := [("tabs", 't'), ("all", 'a'), ("first-only", 'φ')] }
    1 fun p a => settle do
      let stops ← Stops.ofLists p (stopLists a)
      let whole := a.hasAny "at" && !a.has 'φ'
      return overContents p a.operands fileFault (overLines (withTabs stops whole))

open Layout in
/-- Numbers in front of lines. -/
def nl : Tool :=
  taking nlLetters 1 fun p a => settle do
    let f ← Numbering.ofAsked p a
    let (found, rest) := contents p (orInput a.operands)
    let (_, transcript) := found.foldl
      (fun (next, done) (name, content) =>
        match content with
        | .error e => (next, done ++ [p.complaint (fileFault name e)])
        | .ok b =>
          let page := b.lines.foldl f.step1 next
          ({ page with out := [] }, done ++ [(Channel.output, unlines page.out.reverse)]))
      (({ next := f.start } : Page), ([] : Transcript))
    return conclude p rest transcript

end AliasShell.Tools
