/-
Running an edit: lines are read one after another into a space, the commands change it, and what is
in it at their end is written.

A command may go back to another one, so a run is bounded by a number of commands.
-/
import AliasShell.Machine.Tools.Editing.Basic
import AliasShell.Machine.Tools.Contents

namespace AliasShell.Editing

/-! ### What a run knows -/

/-- A line that is to be read. -/
structure Row where
  number : Nat
  /-- It is the last one. -/
  isLast : Bool
  /-- It has its line end. -/
  ended : Bool
  /-- The name of the content it is from. -/
  source : Text
  line : Bytes

/-- A text that may lack the line end of its last line. -/
structure Space where
  text : Bytes := []
  ended : Bool := true

/-- What was written to one place, the last piece first. -/
structure Sink where
  pieces : List Bytes := []
  ended : Bool := true

/-- Between two lines that a command is for. -/
inductive Within where
  | outside
  | untilLine (n : Nat)
  | untilFit
  deriving Repr, DecidableEq

/-- What is to be written at the end of a cycle. -/
inductive Addition where
  | text (b : Bytes)
  | file (name : Text)

/-- Where a run has come to. -/
structure Work where
  files : Files
  rows : List Row
  row : Row
  space : Space
  held : Space := {}
  /-- The command that is next. -/
  next : Nat := 0
  replaced : Bool := false
  within : Array Within
  added : List Addition := []
  output : Sink := {}
  /-- What was last written to the output by its name has its line end. -/
  namedEnded : Bool := true
  /-- What is written to the output by its name, where the rest is written elsewhere. -/
  screen : Option Sink := none
  errors : Sink := {}
  sinks : List (Text × Sink) := []
  /-- What is left of the files that lines are taken from. -/
  taken : List (Text × List (Bytes × Bool)) := []
  last : Option Matcher := none
  /-- How the run has ended: with a code, or because there was no expression yet. -/
  ended : Option (Except Unit Nat) := none

/-- How an edit is run. -/
structure Mode where
  script : Script
  quiet : Bool
  width : Nat
  lineEnd : UInt8
  /-- What stands for the input that files name. -/
  input : Bytes

namespace Work

/-! ### Writing -/

/-- A sink with a piece of text in it; the line end that is due comes first. -/
def put (lineEnd : UInt8) (b : Bytes) (ended : Bool) (s : Sink) : Sink :=
  let front := if s.ended then s.pieces else [lineEnd] :: s.pieces
  { pieces := (if ended then b ++ [lineEnd] else b) :: front, ended }

/-- A sink with a text in it that has all its line ends. -/
def putText (lineEnd : UInt8) (b : Bytes) (s : Sink) : Sink :=
  let front := if s.ended then s.pieces else [lineEnd] :: s.pieces
  { pieces := b :: front, ended := true }

/-- Writes to a place. -/
def writeTo (w : Work) (name : Option Text) (f : Sink → Sink) : Work :=
  match name with
  | none => { w with output := f w.output }
  | some name =>
    if name = "/dev/stdout".toList then
      match w.screen with
      | some s => { w with screen := some (f s) }
      | none =>
        let s := f ⟨w.output.pieces, w.namedEnded⟩
        { w with output := ⟨s.pieces, w.output.ended⟩, namedEnded := s.ended }
    else if name = "/dev/stderr".toList then { w with errors := f w.errors }
    else
      let rec change : List (Text × Sink) → List (Text × Sink)
        | [] => [(name, f {})]
        | (n, s) :: rest => if n = name then (n, f s) :: rest else (n, s) :: change rest
      { w with sinks := change w.sinks }

/-- Writes the space. -/
def show_ (w : Work) (m : Mode) (name : Option Text) : Work :=
  w.writeTo name (put m.lineEnd w.space.text w.space.ended)

/-- Writes the first line of the space. -/
def showFirst (w : Work) (m : Mode) (name : Option Text) : Work :=
  let front := w.space.text.takeWhile (· != m.lineEnd)
  let ended := w.space.ended || front.length < w.space.text.length
  w.writeTo name (put m.lineEnd front ended)

/-- The contents of a file that an edit names. -/
def contentOf (w : Work) (m : Mode) (name : Text) : Bytes :=
  if w.files.isInput name then m.input else (w.files.read name).toOption.getD []

/-- Writes what was added for the end of a cycle. -/
def dump (w : Work) (m : Mode) : Work :=
  w.added.foldl
    (fun w a =>
      match a with
      | .text b => w.writeTo none (putText m.lineEnd b)
      | .file name =>
        match w.contentOf m name with
        | [] => w
        | b =>
          w.writeTo none fun s =>
            { pieces := b :: (putText m.lineEnd [] s).pieces, ended := true })
    { w with added := [] }

/-! ### Reading -/

/-- The next line is read, if there is one: in place of the space, or behind it. -/
def read? (w : Work) (m : Mode) (behind : Bool) : Option Work :=
  match w.rows with
  | [] => none
  | row :: rows =>
    let w := w.dump m
    let text := if behind then w.space.text ++ m.lineEnd :: row.line else row.line
    some { w with row, rows, replaced := false, space := ⟨text, row.ended⟩ }

/-- A new cycle begins, or the run is over. -/
def cycle (w : Work) (m : Mode) : Work :=
  match w.read? m false with
  | some w => { w with next := 0 }
  | none => { w.dump m with ended := some (.ok 0) }

/-- The end of the commands. -/
def finish (w : Work) (m : Mode) : Work :=
  (if m.quiet then w else w.show_ m none).cycle m

/-- The run ends with a code. -/
def stop (w : Work) (m : Mode) (shows : Bool) (code : Nat) : Work :=
  let w := if shows then (if m.quiet then w else w.show_ m none).dump m else w
  { w with ended := some (.ok code) }

/-! ### Which lines a command is for -/

/-- The expression that an address or a substitution means, which is the last one that was used if
it names none. -/
def meant (w : Work) (m : Option Matcher) : Option Matcher := m.or w.last

/-- The address is that of the line. -/
def isAt (w : Work) (a : Address) : Bool × Work :=
  let row := w.row
  match a with
  | .number n => (row.number == n, w)
  | .last => (row.isLast, w)
  | .every first step =>
    (if step = 0 then row.number == first
      else first ≤ row.number && (row.number - first) % step == 0, w)
  | .further _ | .multiple _ => (false, w)
  | .fitting m =>
    match w.meant m with
    | some m => (m.isIn w.space.text.toArray, { w with last := some m })
    | none => (false, { w with ended := some (.error ()) })

/-- Between two lines up to a number. -/
def upTo (w : Work) (n : Nat) : Within := if w.row.number < n then .untilLine n else .outside

/-- The line is one that a command is for, and whether the next one is between its two lines. -/
def reached (w : Work) (v : Within) (r : Reach) : Bool × Within × Work :=
  match r with
  | .all => (true, .outside, w)
  | .one a =>
    let (hit, w) := w.isAt a
    (hit, .outside, w)
  | .between a b =>
    match v with
    | .untilLine n => (w.row.number ≤ n, w.upTo n, w)
    | .untilFit =>
      let (hit, w) := w.isAt b
      (true, if hit then .outside else .untilFit, w)
    | .outside =>
      let (hit, w) := w.isAt a
      if !hit then (false, .outside, w)
      else
        match b with
        | .number n => (true, w.upTo n, w)
        | .further n => (true, w.upTo (w.row.number + n), w)
        | .multiple n =>
          (true, if n = 0 then .outside else w.upTo ((w.row.number / n + 1) * n), w)
        | _ => (true, .untilFit, w)

/-! ### Replacing -/

/-- A letter in a case. -/
def inCase (c : Case) (b : UInt8) : UInt8 :=
  match c with
  | .kept => b
  | .upper => if 97 ≤ b && b ≤ 122 then b - 32 else b
  | .lower => if 65 ≤ b && b ≤ 90 then b + 32 else b

/-- What comes in the place of a match; the case of what follows and of the next letter go along. -/
def filled (t : Array UInt8) (found : Match) : Case → Case → List Filler → Bytes
  | _, _, [] => []
  | lasting, next, f :: fs =>
    let piece (b : Bytes) : Bytes :=
      match b with
      | [] => filled t found lasting next fs
      | x :: xs =>
        inCase (if next = .kept then lasting else next) x :: xs.map (inCase lasting) ++
          filled t found lasting .kept fs
    match f with
    | .bytes b => piece b
    | .group n =>
      match found.group? n with
      | some (a, b) => piece (t.extract a b).toList
      | none => piece []
    | .case c => filled t found c .kept fs
    | .nextCase c => filled t found lasting c fs

/-- A text with matches replaced, from a place on; at most `n` matches.  `fresh` says that an empty
match may count here.  The pieces are gathered in front of those before, the last one first. -/
def replace (s : Substitution) (m : Matcher) (t : Array UInt8) :
    Nat → Nat → Bool → Nat → List Bytes → List Bytes × Bool
  | 0, _, _, i, done => ((t.extract i t.size).toList :: done, false)
  | n + 1, nth, fresh, i, done =>
    match m.find? t i with
    | none => ((t.extract i t.size).toList :: done, false)
    | some found =>
      let (a, b) := (found.start, found.finish)
      if a = b ∧ a = i ∧ !fresh then
        match t[a]? with
        | some x => replace s m t n nth true (a + 1) ([x] :: done)
        | none => (done, false)
      else
        let front := (t.extract i a).toList
        let counts := nth ≤ 1
        let new := if counts then filled t found .kept .kept s.fill else (t.extract a b).toList
        let done := new :: front :: done
        if counts && !s.all then ((t.extract b t.size).toList :: done, true)
        else
          let (done, also) := replace s m t n (nth - 1) false b done
          (done, also || counts)

/-- Replaces in the space. -/
def substitute (w : Work) (m : Mode) (s : Substitution) : Work :=
  match w.meant s.matcher with
  | none => { w with ended := some (.error ()) }
  | some matcher =>
    let w := { w with last := some matcher }
    let t := w.space.text.toArray
    let (pieces, done) := replace s matcher t (2 * t.size + 2) s.nth true 0 []
    if !done then w
    else
      let text : Bytes := pieces.reverse.flatten
      let w := { w with space := { w.space with text }, replaced := true }
      let w := if s.prints then w.show_ m none else w
      match s.file with
      | some name => w.show_ m (some name)
      | none => w

/-! ### Spelling out -/

/-- A byte as it is spelt out. -/
def spelt (b : UInt8) : Bytes :=
  let named : List (UInt8 × Char) :=
    [(92, '\\'), (7, 'a'), (8, 'b'), (12, 'f'), (10, 'n'), (13, 'r'), (9, 't'), (11, 'v')]
  match named.lookup b with
  | some c => [92, Text.byteOf c]
  | none =>
    if 32 ≤ b && b < 127 then [b]
    else
      let ds := Nat.toDigits 8 b.toNat
      92 :: Text.bytes (List.replicate (3 - ds.length) '0' ++ ds)

/-- A text spelt out in lines of this width. -/
def speltOut (width : Nat) (b : Bytes) : Bytes :=
  let (out, _) := b.foldl
    (fun (out, column) x =>
      let piece := spelt x
      if width != 0 && width - 1 < column + piece.length then
        (piece.reverse ++ [10, 92] ++ out, piece.length)
      else (piece.reverse ++ out, column + piece.length))
    (([] : Bytes), (0 : Nat))
  out.reverse ++ [36, 10]

/-! ### Commands -/

/-- Goes on at a label, or at the end. -/
def goTo (w : Work) (m : Mode) (label : Text) : Work :=
  if label.isEmpty then { w with next := m.script.commands.size }
  else { w with next := (m.script.labels.lookup label).getD m.script.commands.size }

/-- The next line of a file that lines are taken from. -/
def takeLine (w : Work) (m : Mode) (name : Text) : Work :=
  let lines := match w.taken.lookup name with
    | some lines => lines
    | none =>
      let b := w.contentOf m name
      let lines := b.lines
      lines.mapIdx fun i line => (line, i + 1 < lines.length || b.getLast? == some 10)
  let others := w.taken.filter (·.1 != name)
  match lines with
  | [] => { w with taken := (name, []) :: others }
  | (line, ended) :: rest =>
    { w with
      taken := (name, rest) :: others
      added := w.added ++ [.text (if ended then line ++ [10] else line)] }

/-- Runs one command, of which it is known that it is for the line.  `isEnd` says that it is not for
lines that follow each other and go on with the next one. -/
def perform (w : Work) (m : Mode) (isEnd : Bool) : Edit → Work
  | .substitute s => w.substitute m s
  | .exchange table =>
    { w with space :=
      { w.space with text := w.space.text.map fun b => (table.lookup b).getD b } }
  | .print => w.show_ m none
  | .printFirst => w.showFirst m none
  | .spell width => w.writeTo none (putText 10 (speltOut (width.getD m.width) w.space.text))
  | .number =>
    w.writeTo none (putText 10 (Text.bytes (Integer.digits w.row.number ++ ['\n'])))
  | .source => w.writeTo none (putText 10 (Text.bytes (w.row.source ++ ['\n'])))
  | .delete => w.cycle m
  | .deleteFirst =>
    match (w.space.text.dropWhile (· != m.lineEnd)) with
    | [] => w.cycle m
    | _ :: text => { w.dump m with space := { w.space with text }, next := 0 }
  | .empty => { w with space := { w.space with text := [] } }
  | .next =>
    if w.rows.isEmpty then w.finish m
    else ((if m.quiet then w else w.show_ m none).read? m false).getD w
  | .appendNext =>
    if w.rows.isEmpty then w.finish m else (w.read? m true).getD w
  | .hold => { w with held := w.space }
  | .holdMore =>
    { w with held := ⟨w.held.text ++ m.lineEnd :: w.space.text, w.space.ended⟩ }
  | .get => { w with space := w.held }
  | .getMore => { w with space := ⟨w.space.text ++ m.lineEnd :: w.held.text, w.held.ended⟩ }
  | .swap => { w with space := w.held, held := w.space }
  | .append t => { w with added := w.added ++ [.text t] }
  | .insert t => w.writeTo none (putText m.lineEnd t)
  | .change t => (if isEnd then w.writeTo none (putText m.lineEnd t) else w).cycle m
  | .appendFile name => { w with added := w.added ++ [.file name] }
  | .appendLine name => w.takeLine m name
  | .write name => w.show_ m (some name)
  | .writeFirst name => w.showFirst m (some name)
  | .quit code => w.stop m true code
  | .leave code => w.stop m false code
  | .jump .always label => w.goTo m label
  | .jump (.replaced truth) label =>
    let goes := w.replaced == truth
    let w := { w with replaced := false }
    if goes then w.goTo m label else w
  | .block _ | .nothing => w

/-- Runs the command that is next. -/
def step (w : Work) (m : Mode) : Work :=
  match m.script.commands[w.next]? with
  | none => w.finish m
  | some c =>
    let v := w.within.getD w.next .outside
    let (hit, v, w) := w.reached v c.reach
    if w.ended.isSome then w
    else
      let k := w.next
      let w := { w with within := w.within.setIfInBounds k v, next := k + 1 }
      if hit != c.inverted then w.perform m (v == .outside) c.edit
      else
        match c.edit with
        | .block next => { w with next }
        | _ => w

/-- Runs commands up to the end; at most `n`. -/
def steps (m : Mode) : Nat → Work → Work
  | 0, w => w
  | n + 1, w => if w.ended.isSome then w else steps m n (w.step m)

/-- The state in which a command begins: one for all lines up to a match is between its lines. -/
def atFirst (c : Command) : Within :=
  match c.reach with
  | .between (.number 0) _ => .untilFit
  | _ => .outside

/-- How many commands are run at most. -/
def patience : Nat := 100000000

end Work

end AliasShell.Editing
