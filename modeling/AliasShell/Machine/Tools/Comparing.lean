/-
Tools that hold two files against each other: line by line in order, by a field, or byte by byte.

Two rows of lines in order are walked together, and the smaller line is taken first.  That they
are in order is only found out on the way, and only complained of once a line has no fellow.
-/
import AliasShell.Machine.Tools.Columns
import AliasShell.Machine.Tools.Differences

namespace AliasShell.Tools

namespace Comparing

/-! ### Order -/

/-- When it is looked whether lines are in order. -/
inductive Check where
  /-- once a line has no fellow -/
  | usual
  | always
  | never
  deriving Repr, DecidableEq

/-- How two runs of bytes stand. -/
def order (a b : Bytes) : Ordering := if a = b then .eq else if Bytes.le a b then .lt else .gt

/-- The check that is asked for. -/
def Check.ofAsked (a : Asked) : Check :=
  match a.lastOf ['κ', 'μ'] with
  | some 'κ' => .always
  | some _ => .never
  | none => .usual

/-! ### Lines that two files have or have not -/

/-- What walking through two rows of lines has come to. -/
structure Walk where
  out : List Bytes := []
  counts : Nat × Nat × Nat := (0, 0, 0)
  /-- A line has no fellow. -/
  alone : Bool := false
  /-- It was complained of the order of the first or second file. -/
  warned : Bool × Bool := (false, false)
  transcript : Transcript := []
  /-- Nothing more is read. -/
  ended : Bool := false

/-- A row of lines that is walked through: what is left of it and what is gone, the last line
first. -/
structure Row where
  left : List Bytes
  gone : List Bytes := []

/-- The row with one more line gone. -/
def Row.next (r : Row) : Row :=
  match r.left with
  | x :: xs => ⟨xs, x :: r.gone⟩
  | [] => r

/-- The two lines whose order is looked at when a row has moved on: the last one and the one behind
it, or at the end the last two. -/
def Row.lastPair? (r : Row) : Option (Bytes × Bytes) :=
  match r.left, r.gone with
  | x :: _, y :: _ => some (y, x)
  | [], x :: y :: _ => some (y, x)
  | _, _ => none

/-- What is asked of the tool for lines. -/
structure Columns where
  /-- lines of the first file only, of the second file only, and of both -/
  shown : Bool × Bool × Bool
  separator : Bytes
  check : Check
  last : UInt8

/-- Complains that a row is out of order, once. -/
def Walk.look (p : Process) (c : Columns) (isFirst : Bool) (r : Row) (w : Walk) : Walk :=
  let done := if isFirst then w.warned.1 else w.warned.2
  if c.check = .never ∨ (c.check = .usual ∧ !w.alone) ∨ done ∨ w.ended then w
  else
    match r.lastPair? with
    | some (x, y) =>
      if order x y != .gt then w
      else
        let flushed := w.transcript ++ [(.output, w.out.reverse.flatten)]
        let n := if isFirst then "1" else "2"
        { w with
          out := []
          transcript := flushed ++
            [p.complaint ("file ".toList ++ n.toList ++ " is not in sorted order".toList)]
          warned := if isFirst then (true, w.warned.2) else (w.warned.1, true)
          ended := c.check = .always }
    | none => w

/-- Walks through two rows of lines; at most `n` steps. -/
def walk (p : Process) (c : Columns) : Nat → Row → Row → Walk → Walk
  | 0, _, _, w => w
  | n + 1, a, b, w =>
    let sep (wanted : Bool) : Bytes := if wanted then c.separator else []
    let (one, two, both) := c.shown
    let (na, nb, nc) := w.counts
    if w.ended then w
    else
      let stand : Option Ordering := match a.left, b.left with
        | [], [] => none
        | [], _ => some .gt
        | _, [] => some .lt
        | x :: _, y :: _ => some (order x y)
      let line (r : Row) : Bytes := r.left.headD [] ++ [c.last]
      match stand with
      | none => w
      | some .eq =>
        let out := if both then (sep one ++ sep two ++ line b) :: w.out else w.out
        let w := { w with out, counts := (na, nb, nc + 1) }
        let a := a.next
        let b := b.next
        walk p c n a b ((w.look p c true a).look p c false b)
      | some .lt =>
        let out := if one then line a :: w.out else w.out
        let a' := a.next
        walk p c n a' b
          ({ w with out, counts := (na + 1, nb, nc), alone := true }.look p c true a')
      | some .gt =>
        let out := if two then (sep one ++ line b) :: w.out else w.out
        let b' := b.next
        walk p c n a b'
          ({ w with out, counts := (na, nb + 1, nc), alone := true }.look p c false b')

/-- The two files that operands name, unless there are not two of them or one cannot be read. -/
def twoFiles (p : Process) (a : Asked) : Except Aftermath (Text × Text) :=
  match a.operands with
  | [] => failMisused p 1 "missing operand"
  | [t] => failMisused p 1 ("missing operand after " ++ Quoting.cited t)
  | [s, t] => .ok (s, t)
  | _ :: _ :: t :: _ => failMisused p 1 ("extra operand " ++ Quoting.cited t)

/-! ### Lines with a field in common -/

/-- A field of a file, or the one that both have in common. -/
inductive Spot where
  | common
  | field (isFirst : Bool) (n : Nat)
  deriving Repr, DecidableEq

/-- How lines are joined. -/
structure Join where
  /-- the fields that are compared, counted from 0 -/
  first : Nat := 0
  second : Nat := 0
  separator : Option UInt8 := none
  filler : Bytes := []
  folds : Bool := false
  /-- Lines of a file without a fellow are written. -/
  aloneFirst : Bool := false
  aloneSecond : Bool := false
  /-- Lines with a fellow are written. -/
  pairs : Bool := true
  spots : List Spot := []
  /-- Every line has as many fields as the first one of its file. -/
  regular : Bool := false
  header : Bool := false
  check : Check := .usual
  last : UInt8 := 10

/-- A blank between fields. -/
def isGap (b : UInt8) : Bool := b == 32 || b == 9 || b == 10

/-- The fields of a line between blanks; at most `n`.  A blank at the end has an empty field behind
it. -/
def blankFields : Nat → Bytes → List Bytes
  | 0, _ => []
  | n + 1, b =>
    let field := b.takeWhile fun x => !isGap x
    match b.drop field.length with
    | [] => [field]
    | rest => field :: blankFields n (rest.dropWhile isGap)

/-- The fields of a line. -/
def Join.fields (j : Join) (line : Bytes) : List Bytes :=
  if line.isEmpty then []
  else
    match j.separator with
    | some 10 => [line]
    | some s => Columns.cutAt s line
    | none =>
      match line.dropWhile isGap with
      | [] => []
      | b => blankFields b.length b

/-- A line with its fields. -/
structure Entry where
  line : Bytes
  fields : List Bytes

/-- The field that is compared. -/
def Entry.key (e : Entry) (n : Nat) : Bytes := (e.fields[n]?).getD []

/-- How two fields stand. -/
def Join.compare (j : Join) (a b : Bytes) : Ordering :=
  let raise (b : Bytes) : Bytes := b.map fun x => if 97 ≤ x && x ≤ 122 then x - 32 else x
  if j.folds then
    let n := min a.length b.length
    (order ((raise a).take n) ((raise b).take n)).then (Ord.compare a.length b.length)
  else order a b

/-- A field that is written, or what is written for one that is empty. -/
def Join.shown (j : Join) (b : Option Bytes) : Bytes :=
  match b with
  | some (x :: xs) => x :: xs
  | _ => j.filler

/-- A line for one line of each file, or for one without a fellow. -/
def Join.row (j : Join) (counts : Nat × Nat) (a b : Option Entry) : Bytes :=
  let between : Bytes := [j.separator.getD 32]
  let key : Option Bytes := match a, b with
    | some e, _ => e.fields[j.first]?
    | none, some e => e.fields[j.second]?
    | none, none => none
  let written := if j.spots.isEmpty then
      let others (e : Option Entry) (n count : Nat) : List Bytes :=
        let fields := (e.map (·.fields)).getD []
        let size := if j.regular then count else fields.length
        ((List.range size).filter (· != n)).map fun i => j.shown fields[i]?
      j.shown key :: others a j.first counts.1 ++ others b j.second counts.2
    else
      j.spots.map fun
        | .common => j.shown key
        | .field isFirst n => j.shown (((if isFirst then a else b).bind fun e => e.fields[n]?))
  between.intercalate written ++ [j.last]

/-- What joining has come to. -/
structure Joining where
  out : List Bytes := []
  alone : Bool := false
  warned : Bool × Bool := (false, false)
  transcript : Transcript := []
  ended : Bool := false

/-- A file whose lines are being read: what is left of it, the line before, and its number. -/
structure Source where
  name : Text
  isFirst : Bool
  left : List Bytes
  before : Option Entry := none
  number : Nat := 0

/-- Reads a line, and complains if it is out of order. -/
def Join.next (p : Process) (j : Join) (s : Source) (w : Joining) :
    Option Entry × Source × Joining :=
  match s.left with
  | [] => (none, s, w)
  | line :: left =>
    let e : Entry := ⟨line, j.fields line⟩
    let number := s.number + 1
    let after := { s with left, before := some e, number }
    let done := if s.isFirst then w.warned.1 else w.warned.2
    let n := if s.isFirst then j.first else j.second
    let falls := s.before.any fun b => j.compare (b.key n) (e.key n) == .gt
    if w.ended then (none, s, w)
    else if j.check = .never ∨ (j.check = .usual ∧ !w.alone) ∨ done ∨ !falls then (some e, after, w)
    else
      let t := s.name ++ ':' :: Integer.digits number ++ ": is not sorted: ".toList ++
        Bytes.numbered line
      let w := { w with
        out := []
        transcript := w.transcript ++ [(.output, w.out.reverse.flatten), p.complaint t]
        warned := if s.isFirst then (true, w.warned.2) else (w.warned.1, true)
        ended := j.check = .always }
      (if w.ended then none else some e, after, w)

/-- Reads lines as long as they fit a key; the one that does not comes last, if there is one. -/
def Join.gather (p : Process) (j : Join) (key : Bytes) :
    Nat → Source → Joining → List Entry → List Entry × Option Entry × Source × Joining
  | 0, s, w, done => (done.reverse, none, s, w)
  | n + 1, s, w, done =>
    match j.next p s w with
    | (none, s, w) => (done.reverse, none, s, w)
    | (some e, s, w) =>
      let k := if s.isFirst then j.first else j.second
      if j.compare (e.key k) key = .eq then gather p j key n s w (e :: done)
      else (done.reverse, some e, s, w)

/-- Reads what is left of a file, and writes it if lines without a fellow are asked for. -/
def Join.drain (p : Process) (j : Join) (counts : Nat × Nat) (writes : Bool) :
    Nat → Option Entry → Source → Joining → Joining
  | 0, _, _, w => w
  | n + 1, e, s, w =>
    match e with
    | none => w
    | some e =>
      let row := if s.isFirst then j.row counts (some e) none else j.row counts none (some e)
      let w := if writes then { w with out := row :: w.out } else w
      let (e, s, w) := j.next p s w
      drain p j counts writes n e s w

/-- Walks through two files; at most `n` steps. -/
def Join.walk (p : Process) (j : Join) (counts : Nat × Nat) :
    Nat → Option Entry → Option Entry → Source → Source → Joining → Joining
  | 0, _, _, _, _, w => w
  | n + 1, a, b, s, t, w =>
    if w.ended then w
    else
      match a, b with
      | some x, some y =>
        match j.compare (x.key j.first) (y.key j.second) with
        | .lt =>
          let w := if j.aloneFirst then { w with out := j.row counts a none :: w.out } else w
          let (a, s, w) := j.next p s w
          walk p j counts n a b s t { w with alone := true }
        | .gt =>
          let w := if j.aloneSecond then { w with out := j.row counts none b :: w.out } else w
          let (b, t, w) := j.next p t w
          walk p j counts n a b s t { w with alone := true }
        | .eq =>
          let (xs, a, s, w) := j.gather p (y.key j.second) (s.left.length + 1) s w [x]
          let (ys, b, t, w) := j.gather p (x.key j.first) (t.left.length + 1) t w [y]
          let rows := if j.pairs && !w.ended then
              xs.flatMap fun x => ys.map fun y => j.row counts (some x) (some y)
            else []
          walk p j counts n a b s t { w with out := rows.reverse ++ w.out }
      | a, b =>
        let checks := j.check != .never
        let w := if a.isSome && (j.aloneFirst || checks) then
            j.drain p counts j.aloneFirst (s.left.length + 1) a s
              { w with alone := w.alone || b.isSome }
          else w
        if b.isSome && (j.aloneSecond || checks) then
          j.drain p counts j.aloneSecond (t.left.length + 1) b t
            { w with alone := w.alone || a.isSome }
        else w

/-- The number of a field, counted from 0. -/
def fieldNumber (p : Process) (t : Text) : Except Aftermath Nat :=
  match count? t with
  | some (n + 1) => .ok n
  | _ => failWith p 1 ("invalid field number: " ++ Quoting.cited t)

/-- The fields that a list names. -/
def readSpots (p : Process) (t : Text) : Except Aftermath (List Spot) :=
  let pieces := (t.cut fun c => c == ',' || c == ' ' || c == '\t')
  pieces.mapM fun piece =>
    match piece with
    | ['0'] => .ok .common
    | '1' :: '.' :: n => (fieldNumber p n).map (.field true)
    | '2' :: '.' :: n => (fieldNumber p n).map (.field false)
    | c :: _ =>
      if c = '0' ∨ c = '1' ∨ c = '2' then
        failWith p 1 ("invalid field specifier: " ++ Quoting.cited piece)
      else failWith p 1 ("invalid file number in field spec: " ++ Quoting.cited piece)
    | [] => failWith p 1 ("invalid file number in field spec: " ++ Quoting.cited piece)

/-- How lines are joined, as it is asked for. -/
def Join.ofAsked (p : Process) (a : Asked) : Except Aftermath Join := do
  let mut j : Join := { header := a.has 'θ', check := Check.ofAsked a, folds := a.has 'i' }
  let mut first : Option Nat := none
  let mut second : Option Nat := none
  let same (old : Option Nat) (n : Nat) : Except Aftermath Unit :=
    match old with
    | some m =>
      if m = n then .ok ()
      else failWith p 1 ("incompatible join fields " ++ Integer.digits m ++ ", ".toList ++
        Integer.digits n)
    | none => .ok ()
  for (c, t) in a.options do
    if c = 'a' ∨ c = 'v' then
      match t with
      | ['1'] => j := { j with aloneFirst := true, pairs := j.pairs && c != 'v' }
      | ['2'] => j := { j with aloneSecond := true, pairs := j.pairs && c != 'v' }
      | _ => failWith p 1 ("invalid field number: " ++ Quoting.cited t)
    else if c = 'e' then
      if !j.filler.isEmpty ∧ j.filler != Text.bytes t then
        failWith p 1 "conflicting empty-field replacement strings"
      j := { j with filler := Text.bytes t }
    else if c = '1' then
      let n ← fieldNumber p t
      same first n
      first := some n
    else if c = '2' then
      let n ← fieldNumber p t
      same second n
      second := some n
    else if c = 'j' then
      let n ← fieldNumber p t
      same first n
      same second n
      first := some n
      second := some n
    else if c = 'o' then
      if t = "auto".toList then j := { j with regular := true }
      else
        let more ← readSpots p t
        j := { j with spots := j.spots ++ more }
    else if c = 't' then
      let b : UInt8 ← match t with
        | [] => pure 10
        | [x] => pure (Text.byteOf x)
        | ['\\', '0'] => pure 0
        | t => failWith p 1 ("multi-character tab " ++ Quoting.cited t)
      if j.separator.any (· != b) then failWith p 1 "incompatible tabs"
      j := { j with separator := some b }
  return { j with first := first.getD 0, second := second.getD 0, last := lineEnd (a.has 'z') }

/-! ### Bytes -/

/-- A byte that is shown as itself, or as what it is made of. -/
def shownByte (b : UInt8) : Text :=
  let low := if 128 ≤ b then b - 128 else b
  let shown : Text := if low < 32 then ['^', Char.ofNat (low.toNat + 64)]
    else if low = 127 then ['^', '?'] else [Char.ofNat low.toNat]
  if 128 ≤ b then 'M' :: '-' :: shown else shown

/-- A byte in eighths, three characters wide. -/
def octal (b : UInt8) : Text :=
  let ds := Nat.toDigits 8 b.toNat
  List.replicate (3 - ds.length) ' ' ++ ds

/-- The number of bytes that is left out, or that is compared. -/
def byteCount (p : Process) (option : String) (t : Text) : Except Aftermath Nat :=
  match size? t with
  | some n => .ok n
  | none =>
    .error (misusedNamed p 2 ("invalid --" ++ option.toList ++ " value '" ++ t ++ ['\'']))

/-- The places where two runs of bytes differ, from a place on; at most `n`. -/
def differences : Nat → Bytes → Bytes → List (Nat × UInt8 × UInt8)
  | i, a :: as, b :: bs =>
    if a = b then differences (i + 1) as bs else (i, a, b) :: differences (i + 1) as bs
  | _, _, _ => []

/-- How two files are compared byte by byte. -/
structure ByteWish where
  all : Bool
  silent : Bool
  bytes : Bool

/-- What is written of two runs of bytes, with the code that the tool ends with; `width` is that
of the number of the last byte. -/
def compareBytes (p : Process) (w : ByteWish) (names : Text × Text) (width : Nat) (a b : Bytes) :
    Aftermath :=
  let found := differences 1 a b
  let common := min a.length b.length
  let shorter := if a.length < b.length then names.1 else names.2
  let lineCount (n : Nat) : Nat := (a.take n).count 10
  let eof : List (Channel × Bytes) :=
    if a.length = b.length ∨ (!w.all ∧ !found.isEmpty) then []
    else
      let front : Text := "EOF on ".toList ++ shorter
      [p.complaint <|
        if common = 0 then front ++ " which is empty".toList
        else if w.all then front ++ " after byte ".toList ++ Integer.digits common
        else
          let atStart := (a.take common).getLast? = some 10
          front ++ " after byte ".toList ++ Integer.digits common ++
            (if atStart then ", line ".toList else ", in line ".toList) ++
            Integer.digits (lineCount common + if atStart then 0 else 1)]
  let code : Int := if a.length = b.length ∧ found.isEmpty then 0 else 1
  if w.silent then p.quit code
  else
    let padTo (n : Nat) (t : Text) : Text := List.replicate (n - t.length) ' ' ++ t
    let out : Text :=
      if w.all then
        found.flatMap fun (i, x, y) =>
          let place := padTo width (Integer.digits i)
          if w.bytes then
            let mine := shownByte x
            place ++ ' ' :: octal x ++ ' ' :: mine ++ List.replicate (4 - mine.length) ' ' ++
              ' ' :: octal y ++ ' ' :: shownByte y ++ ['\n']
          else place ++ ' ' :: octal x ++ ' ' :: octal y ++ ['\n']
      else
        match found with
        | [] => []
        | (i, x, y) :: _ =>
          let line := Integer.digits (lineCount (i - 1) + 1)
          let what : Text := if w.bytes then " differ: byte ".toList else " differ: char ".toList
          names.1 ++ ' ' :: names.2 ++ what ++ Integer.digits i ++ ", line ".toList ++ line ++
            (if w.bytes then " is ".toList ++ octal x ++ ' ' :: shownByte x ++ ' ' :: octal y ++
              ' ' :: shownByte y else []) ++ ['\n']
    p.leave code (eof ++ [(.output, Text.bytes out)])

end Comparing

open Comparing in
/-- The lines that one file has, the other one, or both. -/
def comm : Tool :=
  taking
    { plain := "123zκμτ", valued := "ω"
      long := [("check-order", 'κ'), ("nocheck-order", 'μ'), ("output-delimiter", 'ω'),
        ("total", 'τ'), ("zero-terminated", 'z')]
      usage := "[OPTION]... FILE1 FILE2" }
    1 fun p a => settle do
      let delimiters := (a.values 'ω').eraseDups
      if 1 < delimiters.length then failWith p 1 "multiple output delimiters specified"
      let (x, y) ← twoFiles p a
      let last := lineEnd (a.has 'z')
      let separator : Bytes := match delimiters with
        | [] => [9]
        | [] :: _ => [0]
        | t :: _ => Text.bytes t
      let (found, rest) := contents p [x, y]
      if let some (name, e) := found.findSome? fun (name, c) =>
          match c with
          | .ok _ => none
          | .error e => some (name, e) then
        failWith p 1 (fileFault name e)
      let lines := found.map fun (_, c) => linesOf (a.has 'z') (c.toOption.getD [])
      let c : Columns :=
        { shown := (!a.has '1', !a.has '2', !a.has '3'), separator, check := Check.ofAsked a, last }
      let first := lines.getD 0 []
      let second := lines.getD 1 []
      let w := walk p c (first.length + second.length + 1) ⟨first, []⟩ ⟨second, []⟩ {}
      let (na, nb, nc) := w.counts
      let total : Bytes := if a.has 'τ' && !w.ended then
          Text.bytes (Integer.digits na) ++ separator ++ Text.bytes (Integer.digits nb) ++
            separator ++ Text.bytes (Integer.digits nc) ++ separator ++
            Text.bytes "total" ++ [last]
        else []
      let both : Transcript := if (x = ['-'] ∧ y = ['-']) ∧ !w.ended then
          [p.complaint "-: Bad file descriptor"] else []
      let warned := (w.warned.1 || w.warned.2) && !w.ended && both.isEmpty
      let final : Transcript := if warned then [p.complaint "input is not in sorted order"] else []
      let transcript := w.transcript ++ [(.output, w.out.reverse.flatten ++ total)] ++ both ++ final
      return conclude p rest transcript

open Comparing in
/-- Lines of two files that have a field in common. -/
def join : Tool :=
  taking
    { plain := "izκμθ", valued := "aejotv12"
      long := [("ignore-case", 'i'), ("check-order", 'κ'), ("nocheck-order", 'μ'),
        ("zero-terminated", 'z'), ("header", 'θ')]
      usage := "[OPTION]... FILE1 FILE2" }
    1 fun p a => settle do
      let j ← Join.ofAsked p a
      let beyond := if j.spots.isEmpty then 0 else a.operands.length - 2
      let more ← (a.operands.take beyond).mapM (readSpots p)
      let j := { j with spots := j.spots ++ more.flatten }
      let (x, y) ← twoFiles p { a with operands := a.operands.drop beyond }
      if x = ['-'] ∧ y = ['-'] then failWith p 1 "both files cannot be standard input"
      let (found, rest) := contents p [x, y]
      if let some (name, e) := found.findSome? fun (name, c) =>
          match c with
          | .ok _ => none
          | .error e => some (name, e) then
        if e = .isDirectory then failWith p 1 ("read error: " ++ e.reason)
        failWith p 1 (fileFault name e)
      let lines := found.map fun (_, c) => linesOf (a.has 'z') (c.toOption.getD [])
      let s : Source := { name := x, isFirst := true, left := lines.getD 0 [] }
      let t : Source := { name := y, isFirst := false, left := lines.getD 1 [] }
      let n := s.left.length + t.left.length + 2
      let (e, s, w) := j.next p s {}
      let (f, t, w) := j.next p t w
      let count (e : Option Entry) : Nat := (e.map fun e => e.fields.length).getD 0
      let counts := (count e, count f)
      let w := if j.header && (e.isSome || f.isSome) then
          let (e', s, w) := j.next p { s with before := none }
            { w with out := j.row counts e f :: w.out }
          let (f', t, w) := j.next p { t with before := none } w
          j.walk p counts n e' f' s t w
        else j.walk p counts n e f s t w
      let warned := (w.warned.1 || w.warned.2) && !w.ended
      let final : Transcript := if warned then [p.complaint "input is not in sorted order"] else []
      return conclude p rest (w.transcript ++ [(.output, w.out.reverse.flatten)] ++ final)

open Comparing in
/-- Where two files differ first, or everywhere. -/
def cmp : Tool :=
  takingNamed
    { plain := "bcls", valued := "in"
      long := [("print-bytes", 'b'), ("print-chars", 'c'), ("ignore-initial", 'i'),
        ("verbose", 'l'),
        ("bytes", 'n'), ("quiet", 's'), ("silent", 's')]
      usage := "[OPTION]... FILE1 [FILE2 [SKIP1 [SKIP2]]]"
      package := "(GNU diffutils) 3.10" }
    2 fun p a => settle do
      let skips ← match a.value? 'i' with
        | none => pure (0, 0)
        | some t => match t.cutFirst (· == ':') with
          | some (x, y) => do
            let m ← (byteCount p "ignore-initial" x).mapError fun _ =>
              misusedNamed p 2 ("invalid --ignore-initial value '" ++ t ++ ['\''])
            let n ← (byteCount p "ignore-initial" y).mapError fun _ =>
              misusedNamed p 2 ("invalid --ignore-initial value '" ++ t ++ ['\''])
            pure (m, n)
          | none => (byteCount p "ignore-initial" t).map fun n => (n, n)
      let limit ← match a.value? 'n' with
        | none => pure none
        | some t => (byteCount p "bytes" t).map some
      if a.has 'l' && a.has 's' then
        .error (misusedNamed p 2 "options -l and -s are incompatible")
      let (x, y, more) ← match a.operands with
        | [] =>
          .error (misusedNamed p 2 ("missing operand after '" ++ p.args.getLastD p.name ++ ['\'']))
        | [x] => pure (x, ['-'], [])
        | x :: y :: more => pure (x, y, more)
      let skipOf (i given : Nat) : Except Aftermath Nat :=
        match more[i]? with
        | none => .ok given
        | some t => (byteCount p "ignore-initial" t).map (max given)
      let skip1 ← skipOf 0 skips.1
      let skip2 ← skipOf 1 skips.2
      if let _ :: _ :: t :: _ := more then
        .error (misusedNamed p 2 ("extra operand '" ++ t ++ ['\'']))
      let (found, rest) := contents p [x, y]
      let silent := a.has 's'
      let faults := found.filterMap fun (name, c) =>
        match c with
        | .ok _ => none
        | .error e =>
          some (if silent && e != .isDirectory then []
            else [p.complaint (name ++ ": " ++ e.reason)])
      if !faults.isEmpty then
        return { p.leave 2 (faults.take 1).flatten with input := rest }
      if x = y ∧ skip1 = skip2 then return { p.quit 0 with input := rest }
      let data (i skip : Nat) : Bytes :=
        let b := ((found[i]?).bind fun f => f.2.toOption).getD []
        let b := b.drop skip
        match limit with
        | some n => b.take n
        | none => b
      let one := data 0 skip1
      let two := data 1 skip2
      let sizes := [(x, one), (y, two)].filterMap fun (name, b) =>
        if name = ['-'] ∧ p.position.isNone then none else some b.length
      let least := sizes.foldl min (limit.getD mostCount.toNat)
      let w : ByteWish := ⟨a.has 'l', silent, a.hasAny "bc"⟩
      return { compareBytes p w (x, y) (Integer.digits least).length one two with input := rest }

end AliasShell.Tools
