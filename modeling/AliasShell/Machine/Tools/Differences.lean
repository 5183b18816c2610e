/-
The tool that tells how two files differ, or two directories.

The changes that make one file the other are found first, and then written in one of several forms.
Changes that stand near each other are written as one piece where lines around them are shown.
-/
import AliasShell.Machine.Dates.Format
import AliasShell.Machine.Edits
import AliasShell.Machine.Regex.Matcher
import AliasShell.Machine.Tools.Clock
import AliasShell.Text.Order

namespace AliasShell.Tools

namespace Differences

open Edits (Change)

/-! ### What counts as equal -/

/-- What does not count when lines are compared. -/
structure Ignored where
  case : Bool := false
  /-- blanks at all, how many of them, at the ends of lines, and those that tabs stand for -/
  blanks : Bool := false
  amounts : Bool := false
  atEnd : Bool := false
  tabs : Bool := false
  /-- lines that are empty -/
  emptyLines : Bool := false
  /-- lines that fit -/
  fitting : List Matcher := []

/-- A blank. -/
def isSpace (b : UInt8) : Bool := b == 32 || (9 ≤ b && b ≤ 13)

/-- Runs of blanks as one. -/
def oneBlank : Bytes → Bytes
  | a :: b :: bs =>
    if isSpace a && isSpace b then oneBlank (32 :: bs) else (if isSpace a then 32 else a) ::
      oneBlank (b :: bs)
  | [b] => [if isSpace b then 32 else b]
  | [] => []
termination_by b => b.length

/-- Blanks in place of tabs. -/
def untabbed (b : Bytes) : Bytes :=
  (b.foldl
    (fun (out, column) x =>
      if x = 9 then (List.replicate (8 - column % 8) 32 ++ out, column + (8 - column % 8))
      else (x :: out, column + 1))
    (([] : Bytes), 0)).1.reverse

/-- A line without blanks at its end. -/
def trimmedEnd (b : Bytes) : Bytes := (b.reverse.dropWhile isSpace).reverse

/-- What of a line counts. -/
def Ignored.key (g : Ignored) (line : Bytes) : Bytes :=
  let b := if g.tabs then untabbed line else line
  let b := if g.blanks then b.filter fun x => !isSpace x
    else if g.amounts then trimmedEnd (oneBlank b)
    else if g.atEnd then trimmedEnd b
    else b
  if g.case then b.map fun x => if 65 ≤ x && x ≤ 90 then x + 32 else x else b

/-- A line that may come and go without being told of. -/
def Ignored.skips (g : Ignored) (line : Bytes) : Bool :=
  let bare := if line.getLast? = some 10 then line.dropLast else line
  (g.emptyLines && (if g.blanks || g.amounts || g.atEnd then bare.all isSpace else bare.isEmpty)) ||
    g.fitting.any fun m => m.isIn bare.toArray

/-! ### Forms -/

/-- The forms in which changes are written. -/
inductive Form where
  | plain
  | unified (around : Nat)
  | context (around : Nat)
  | script
  | commands
  | beside
  | brief
  deriving Repr, DecidableEq

/-- How many lines are shown around changes. -/
def Form.around : Form → Nat
  | .unified n => n
  | .context n => n
  | _ => 0

/-- How files are compared. -/
structure Settings where
  form : Form := .plain
  ignored : Ignored := {}
  labels : List Text := []
  saysIdentical : Bool := false
  asText : Bool := false
  recursive : Bool := false
  /-- A file that is not there is empty. -/
  newFiles : Bool := false
  excluded : List Text := []
  withTabs : Bool := false
  width : Nat := 130
  onlyChanges : Bool := false
  /-- Equal lines are not written twice beside each other. -/
  leftOnly : Bool := false
  /-- A tab stands behind each mark. -/
  startsWithTab : Bool := false
  /-- The last line before a piece that fits stands in its head. -/
  heading : Option Matcher := none
  /-- The options, as they were given. -/
  options : Text := []

/-- The lines of bytes with their ends. -/
def endedLines (b : Bytes) : List Bytes :=
  let lines := b.lines.map (· ++ [10])
  if b.getLast? = some 10 ∨ b.isEmpty = true then lines
  else lines.dropLast ++ (lines.getLast?.map List.dropLast).toList

/-- A line behind a mark, with a remark if it has no end. -/
def marked (mark : String) (line : Bytes) : Bytes :=
  Text.bytes mark.toList ++ line ++
    if line.getLast? = some 10 then [] else Text.bytes "\n\\ No newline at end of file\n"

/-- The numbers of the first and last of some lines. -/
def rangeText (first count : Nat) : Text :=
  if count ≤ 1 then Integer.digits (first + count)
  else Integer.digits (first + 1) ++ ',' :: Integer.digits (first + count)

/-- The lines between two places. -/
def slice (lines : Array Bytes) (first count : Nat) : List Bytes :=
  (lines.extract first (first + count)).toList

/-- A change in the plain form. -/
def plainText (s : Settings) (old new : Array Bytes) (c : Change) : Bytes :=
  let mark (c : String) : String := if s.startsWithTab then c else c ++ " "
  let letter := if c.removed = 0 then 'a' else if c.added = 0 then 'd' else 'c'
  Text.bytes (rangeText c.old c.removed ++ letter :: rangeText c.new c.added ++ ['\n']) ++
    (slice old c.old c.removed).flatMap (marked (mark "<")) ++
    (if letter = 'c' then Text.bytes "---\n" else []) ++
    (slice new c.new c.added).flatMap (marked (mark ">"))

/-- Changes in groups; `apart` lines between two of them are enough for two groups. -/
def grouped (apart : Nat) : List Change → List (List Change)
  | [] => []
  | c :: cs =>
    match grouped apart cs with
    | (d :: ds) :: more =>
      if d.old - (c.old + c.removed) < apart then (c :: d :: ds) :: more
      else [c] :: (d :: ds) :: more
    | more => [c] :: more

/-- The lines that a group stands for, with those around it: where they begin and how many they
are, in one of the lists. -/
def extent (around size : Nat) (place count : Change → Nat) (cs : List Change) : Nat × Nat :=
  match cs.head?, cs.getLast? with
  | some first, some last =>
    let start := place first - around
    let stop := min size (place last + count last + around)
    (start, stop - start)
  | _, _ => (0, 0)

/-- The beginning and number of lines in a unified head. -/
def unifiedRange (first count : Nat) : Text :=
  if count = 0 then Integer.digits first ++ ",0".toList
  else if count = 1 then Integer.digits (first + 1)
  else Integer.digits (first + 1) ++ ',' :: Integer.digits count

/-- The heading of a piece that begins at a line: the last one before it that fits. -/
def headingText (s : Settings) (old : Array Bytes) (first : Nat) : Bytes :=
  match s.heading with
  | none => []
  | some m =>
    let isHeading (line : Bytes) : Bool :=
      m.isIn (if line.getLast? = some 10 then line.dropLast else line).toArray
    match ((old.extract 0 first).toList.reverse.find? isHeading) with
    | some line => 32 :: trimmedEnd (((line.dropWhile isSpace).takeWhile (· != 10)).take 40)
    | none => []

/-- A group in the unified form. -/
def unifiedText (s : Settings) (around : Nat) (old new : Array Bytes) (cs : List Change) : Bytes :=
  let (first, count) := extent around old.size (·.old) (·.removed) cs
  let (newFirst, newCount) := extent around new.size (·.new) (·.added) cs
  let (body, i) := cs.foldl
    (fun (out, i) c =>
      (out ++ (slice old i (c.old - i)).flatMap (marked " ") ++
        (slice old c.old c.removed).flatMap (marked "-") ++
        (slice new c.new c.added).flatMap (marked "+"), c.old + c.removed))
    (([] : Bytes), first)
  Text.bytes ("@@ -" ++ unifiedRange first count ++ " +" ++ unifiedRange newFirst newCount ++
    " @@") ++ headingText s old first ++ [10] ++ body ++
    (slice old i (first + count - i)).flatMap (marked " ")

/-- One side of a group in the form with context. -/
def contextSide (lines : Array Bytes) (first count : Nat) (mark : String)
    (place size other : Change → Nat) (cs : List Change) : Bytes :=
  if cs.all (size · == 0) then []
  else
    let (body, i) := cs.foldl
      (fun (out, i) c =>
        (out ++ (slice lines i (place c - i)).flatMap (marked "  ") ++
          (slice lines (place c) (size c)).flatMap
            (marked (if other c = 0 then mark else "! ")), place c + size c))
      (([] : Bytes), first)
    body ++ (slice lines i (first + count - i)).flatMap (marked "  ")

/-- A group in the form with context. -/
def contextText (s : Settings) (around : Nat) (old new : Array Bytes) (cs : List Change) : Bytes :=
  let (first, count) := extent around old.size (·.old) (·.removed) cs
  let (newFirst, newCount) := extent around new.size (·.new) (·.added) cs
  Text.bytes "***************" ++ headingText s old first ++
    Text.bytes ("\n*** " ++ rangeText first count ++ " ****\n") ++
    contextSide old first count "- " (·.old) (·.removed) (·.added) cs ++
    Text.bytes ("--- " ++ rangeText newFirst newCount ++ " ----\n") ++
    contextSide new newFirst newCount "+ " (·.new) (·.added) (·.removed) cs

/-- A change as a command of an editor.  A line that is a lone point is written as two, and mended
after. -/
def scriptText (new : Array Bytes) (c : Change) : Bytes :=
  let letter := if c.removed = 0 then 'a' else if c.added = 0 then 'd' else 'c'
  let lines := slice new c.new c.added
  let ended (line : Bytes) : Bytes := if line.getLast? = some 10 then line else line ++ [10]
  let (body, inside) := lines.foldl
    (fun (out, inside) line =>
      let front : Bytes := if inside then [] else Text.bytes "a\n"
      if line = [46, 10] then (out ++ front ++ Text.bytes "..\n.\ns/.//\n", false)
      else (out ++ front ++ ended line, true))
    (([] : Bytes), true)
  Text.bytes (rangeText c.old c.removed ++ [letter, '\n']) ++
    if c.added = 0 then [] else body ++ if inside then Text.bytes ".\n" else []

/-- A change as commands for lines of the old file. -/
def commandsText (new : Array Bytes) (c : Change) : Bytes :=
  let line (letter : Char) (first count : Nat) : Bytes :=
    Text.bytes (letter :: Integer.digits first ++ ' ' :: Integer.digits count ++ ['\n'])
  (if c.removed = 0 then [] else line 'd' (c.old + 1) c.removed) ++
    if c.added = 0 then []
    else line 'a' (c.old + c.removed) c.added ++ (slice new c.new c.added).flatten

/-! ### Beside each other -/

/-- Blanks from one column to another. -/
def gap (withTabs : Bool) (start stop : Nat) : Bytes :=
  if withTabs || stop ≤ start then List.replicate (stop - start) 32
  else
    let tabs := stop / 8 - start / 8
    if tabs = 0 then List.replicate (stop - start) 32
    else List.replicate tabs 9 ++ List.replicate (stop % 8) 32

/-- As much of a line as there is room for, and the column behind it. -/
def halfLine (withTabs : Bool) (room : Nat) (line : Bytes) : Bytes × Nat :=
  let (out, column, _) := line.foldl
    (fun (out, column, wanted) b =>
      if b = 10 then (out, column, wanted)
      else if b = 9 then
        let width := 8 - wanted % 8
        if wanted = column ∧ column + width < room then
          ((if withTabs then List.replicate width 32 else [9]) ++ out, column + width,
            wanted + width)
        else (out, column, wanted + width)
      else if wanted < room then (b :: out, wanted + 1, wanted + 1)
      else (out, column, wanted + 1))
    (([] : Bytes), 0, 0)
  (out.reverse, column)

/-- Two lines beside each other, or one of them. -/
def sideLine (s : Settings) (left : Option Bytes) (mark : Char) (right : Option Bytes) : Bytes :=
  let tab := if s.withTabs then 1 else 8
  let off := (s.width + tab + 3) / (2 * tab) * tab
  let half := min (off - 3) (s.width - off)
  let second := if half = 0 then s.width else off
  let ended (line : Option Bytes) : Bool := line.any fun b => b.getLast? == some 10
  let (out, column) := match left with
    | some line => halfLine s.withTabs half line
    | none => ([], 0)
  let (out, column) :=
    if mark = ' ' then (out, column)
    else
      let place := (half + second - 1) / 2
      let mark := if mark = '|' ∧ left.isSome ∧ right.isSome ∧ ended left != ended right then
          if ended left then '/' else '\\'
        else mark
      (out ++ gap s.withTabs column place ++ Text.bytes [mark], place + 1)
  let out := match right with
    | some line =>
      if line.head? = some 10 then out
      else out ++ gap s.withTabs column second ++ (halfLine s.withTabs half line).1
    | none => out
  out ++ if ended left || ended right then [10] else []

/-- All lines beside each other. -/
def sideText (s : Settings) (old new : Array Bytes) (cs : List Change) : Bytes :=
  let same (i j count : Nat) : Bytes :=
    if s.onlyChanges then []
    else ((slice old i count).zip (slice new j count)).flatMap fun (a, b) =>
      if s.leftOnly then sideLine s (some a) '(' none else sideLine s (some a) ' ' (some b)
  let (out, i, j) := cs.foldl
    (fun (out, i, j) c =>
      let both := min c.removed c.added
      let a := slice old c.old c.removed
      let b := slice new c.new c.added
      (out ++ same i j (c.old - i) ++
        ((a.zip b).flatMap fun (x, y) => sideLine s (some x) '|' (some y)) ++
        ((b.drop both).flatMap fun y => sideLine s none '>' (some y)) ++
        ((a.drop both).flatMap fun x => sideLine s (some x) '<' none),
        c.old + c.removed, c.new + c.added))
    (([] : Bytes), 0, 0)
  out ++ same i j (old.size - i)

/-! ### Files -/

/-- A file that is compared: its name, its contents and when it was changed. -/
structure Side where
  name : Text
  data : Bytes
  modified : Moment

/-- The two lines at the head of changes. -/
def heads (p : Process) (s : Settings) (marks : String × String) (a b : Side) : Bytes :=
  let stamp (m : Moment) : Text :=
    let told := Dates.Stamp.ofMoment (zoneOf p) m
    match s.form with
    | .context _ => told.text "%a %b %e %T %Y".toList
    | _ => told.text "%Y-%m-%d %H:%M:%S.%N %z".toList
  let line (mark : String) (label : Option Text) (side : Side) : Text :=
    mark.toList ++ ' ' :: (label.getD (side.name ++ '\t' :: stamp side.modified)) ++ ['\n']
  Text.bytes (line marks.1 s.labels[0]? a ++ line marks.2 s.labels[1]? b)

/-- The changes between two files that are told of. -/
def toldChanges (s : Settings) (old new : List Bytes) : List Change :=
  let cs := Edits.changes s.ignored.key s.form.around old new
  if !s.ignored.emptyLines && s.ignored.fitting.isEmpty then cs
  else
    let old := old.toArray
    let new := new.toArray
    cs.filter fun c => !((slice old c.old c.removed).all s.ignored.skips &&
      (slice new c.new c.added).all s.ignored.skips)

/-- What is written of two files, and whether they differ. -/
def compareFiles (p : Process) (s : Settings) (a b : Side) : Bytes × Bool :=
  let both := (s.labels[0]?).getD a.name ++ " and ".toList ++ (s.labels[1]?).getD b.name
  let identical : Bytes :=
    if s.saysIdentical then Text.bytes ("Files " ++ both ++ " are identical\n") else []
  let isBinary (b : Bytes) : Bool := !s.asText && (b.take 4096).contains 0
  let binary := isBinary a.data || isBinary b.data
  if a.data = b.data ∧ (s.form != .beside ∨ binary) then (identical, false)
  else if binary then
    (Text.bytes ((if s.form = .brief then "Files " else "Binary files ") ++ both ++ " differ\n"),
      true)
  else
    let lines (b : Bytes) : List Bytes :=
      if s.form = .script then b.lines.map (· ++ [10]) else endedLines b
    let old := lines a.data
    let new := lines b.data
    let cs := toldChanges s old new
    let shown (line : Bytes) : Bytes :=
      let line := if s.withTabs && s.form != .beside then untabbed line else line
      if s.startsWithTab && s.form = .plain then 9 :: line else line
    let old := (old.map shown).toArray
    let new := (new.map shown).toArray
    if cs.isEmpty then
      ((if s.form = .beside then sideText s old new cs else []) ++ identical, false)
    else
      let out := match s.form with
        | .plain => cs.flatMap (plainText s old new)
        | .unified n =>
          heads p s ("---", "+++") a b ++
            (grouped (2 * n + 1) cs).flatMap (unifiedText s n old new)
        | .context n =>
          heads p s ("***", "---") a b ++
            (grouped (2 * n + 1) cs).flatMap (contextText s n old new)
        | .script => cs.reverse.flatMap (scriptText new)
        | .commands => cs.flatMap (commandsText new)
        | .beside => sideText s old new cs
        | .brief => Text.bytes ("Files " ++ both ++ " differ\n")
      (out, true)

/-- What comparing has come to: what was written, whether anything differs, and whether anything
went wrong. -/
structure Outcome where
  transcript : Transcript := []
  differs : Bool := false
  failed : Bool := false

namespace Outcome

/-- Two outcomes, one after the other. -/
def append (a b : Outcome) : Outcome :=
  ⟨a.transcript ++ b.transcript, a.differs || b.differs, a.failed || b.failed⟩

/-- Some output of things that differ. -/
def told (t : Text) : Outcome := ⟨[(.output, Text.bytes (t ++ ['\n']))], true, false⟩

/-- A complaint. -/
def wrong (p : Process) (t : Text) : Outcome := ⟨[p.complaint t], false, true⟩

end Outcome

/-- A file by its name; `-` is the input. -/
def side (p : Process) (name : Text) : Except SysError Side :=
  if name = ['-'] then .ok ⟨name, p.input, p.files.now⟩
  else do
    let data ← readFile p name
    let modified := match p.files.locateWhole name with
      | .ok loc => ((p.files.node? loc).map Node.modified).getD 0
      | .error _ => 0
    return ⟨name, data, modified⟩

/-- What kind of thing stands at a path. -/
def kindText (p : Process) (path : Text) : Text :=
  if p.files.isDir path then "directory".toList
  else
    match p.files.read path with
    | .ok [] => "regular empty file".toList
    | .ok _ => "regular file".toList
    | .error _ => "character special file".toList

/-- Two paths compared, with all that is in them if they are directories; at most `n` levels.  At
the first level nothing is said of which files are compared. -/
def comparePaths (p : Process) (s : Settings) : Nat → Bool → Text → Text → Outcome
  | 0, _, _, _ => {}
  | n + 1, isTop, a, b =>
    let isDir (name : Text) : Bool := name != ['-'] && p.files.isDir name
    if isDir a && isDir b then
      if !isTop && !s.recursive then
        { Outcome.told ("Common subdirectories: " ++ a ++ " and " ++ b) with differs := false }
      else
        let inside (dir : Text) : List Text :=
          (((p.files.readDir dir).toOption.getD []).map (·.1)).filter fun name =>
            !s.excluded.any fun pattern => pattern == name
        let inA := inside a
        let inB := inside b
        let names := Text.sortedSet (inA ++ inB)
        names.foldl
          (fun done name =>
            done.append <|
              if !inA.contains name && !s.newFiles then
                .told ("Only in " ++ b ++ ": " ++ name)
              else if !inB.contains name && !s.newFiles then
                .told ("Only in " ++ a ++ ": " ++ name)
              else comparePaths p s n false (Path.join a name) (Path.join b name))
          {}
    else
      let last (t : Text) : Text := ((t.cutLast (· == '/')).map (·.2)).getD t
      let a' := if isTop ∧ isDir a ∧ b != ['-'] then Path.join a (last b) else a
      let b' := if isTop ∧ isDir b ∧ a != ['-'] then Path.join b (last a) else b
      if isDir a' != isDir b' ∧ !isTop then
        .told ("File " ++ a' ++ " is a " ++ kindText p a' ++ " while file " ++ b' ++ " is a " ++
          kindText p b')
      else
        let missing (name : Text) (side : Except SysError Side) : Except SysError Side :=
          match side with
          | .error .notFound => if s.newFiles then .ok ⟨name, [], 0⟩ else side
          | side => side
        match missing a' (side p a'), missing b' (side p b') with
        | .ok x, .ok y =>
          let (out, differs) := compareFiles p s x y
          let head : Bytes :=
            if isTop || out.isEmpty || s.form = .brief || !(differs || s.form = .beside) then []
            else if s.options.isEmpty then Text.bytes ("diff " ++ a' ++ ' ' :: b' ++ ['\n'])
            else Text.bytes ("diff " ++ s.options ++ ' ' :: a' ++ ' ' :: b' ++ ['\n'])
          let unended := [x, y].filter fun f =>
            s.form = .script && !f.data.isEmpty && f.data.getLast? != some 10 &&
              x.data != y.data && !(out.take 6 == Text.bytes "Binary")
          let remarks := unended.map fun f =>
            p.complaint (f.name ++ ": No newline at end of file\n")
          ⟨(.output, head ++ out) :: remarks, differs, !remarks.isEmpty⟩
        | x, y =>
          let fault (name : Text) (r : Except SysError Side) : Outcome :=
            match r with
            | .ok _ => {}
            | .error e => .wrong p (name ++ ": " ++ e.reason)
          (fault a' x).append (fault b' y)

/-- The letters that are known. -/
def letters : Letters :=
  { plain := "abBcdeEHilnNpqrstTuwyZοσλγ", valued := "CUDFILSWxX", loose := "κυχ"
    long := [("ignore-case", 'i'), ("ignore-tab-expansion", 'E'), ("ignore-trailing-space", 'Z'),
      ("ignore-space-change", 'b'), ("ignore-all-space", 'w'), ("ignore-blank-lines", 'B'),
      ("ignore-matching-lines", 'I'), ("text", 'a'), ("brief", 'q'), ("context", 'κ'),
      ("unified", 'υ'), ("normal", 'ο'), ("ed", 'e'), ("rcs", 'n'), ("side-by-side", 'y'),
      ("report-identical-files", 's'), ("recursive", 'r'), ("new-file", 'N'), ("label", 'L'),
      ("exclude", 'x'), ("expand-tabs", 't'), ("minimal", 'd'), ("width", 'W'),
      ("suppress-common-lines", 'σ'), ("left-column", 'λ'), ("strip-trailing-cr", 'γ'),
      ("color", 'χ'), ("speed-large-files", 'H'), ("initial-tab", 'T'),
      ("show-c-function", 'p'), ("show-function-line", 'F')]
    package := "(GNU diffutils) 3.10" }

/-- The form that options ask for. -/
def formOf (a : Asked) : Except Text Form := do
  let mut form : Option Form := none
  for (c, t) in a.options do
    let around : Except Text Nat :=
      if t.isEmpty then .ok 3
      else match count? t with
        | some n => .ok n
        | none => .error ("invalid context length '" ++ t ++ ['\''])
    let one : Option Form ← match c with
      | 'u' => pure (some (.unified 3))
      | 'U' | 'υ' => around.map fun n => some (.unified n)
      | 'c' => pure (some (.context 3))
      | 'C' | 'κ' => around.map fun n => some (.context n)
      | 'e' => pure (some .script)
      | 'n' => pure (some .commands)
      | 'y' => pure (some .beside)
      | 'ο' => pure (some .plain)
      | _ => pure none
    match one, form with
    | none, _ => pure ()
    | some f, none => form := some f
    | some (.unified n), some (.unified m) => form := some (.unified (max n m))
    | some (.context n), some (.context m) => form := some (.context (max n m))
    | some f, some g => if f != g then throw "conflicting output style options".toList
  let usual : Form := if a.hasAny "pF" then .context 3 else .plain
  return if a.has 'q' then .brief else form.getD usual

/-- The options among arguments, as they were given. -/
def optionText (operands args : List Text) : Text :=
  let (kept, _) := args.foldl
    (fun (kept, operands) arg =>
      match operands with
      | o :: os => if o = arg then (kept, os) else (kept ++ [arg], operands)
      | [] => (kept ++ [arg], []))
    (([] : List Text), operands)
  Text.unwords (kept.map Quoting.ifNeeded)

end Differences

/-- Ends because of how a tool was called that says so in its own name. -/
def misusedNamed (p : Process) (code : Int) (t : Text) : Aftermath :=
  p.leave code
    [p.complaint t, p.complaint ("Try '" ++ p.name ++ " --help' for more information.")]

/-- A tool that takes options and says in its own name how it was called. -/
def takingNamed (l : Letters) (code : Int) (run : Process → Asked → Aftermath) : Tool := fun p =>
  match readAsked l p.args.length p.args with
  | .ok a => (aboutSelf? p l a).getD (run p a)
  | .error t => misusedNamed p code t

open Differences in
/-- How files or directories differ. -/
def diff : Tool := takingNamed letters 2 fun p a =>
  match formOf a with
  | .error t => misusedNamed p 2 t
  | .ok form =>
    match a.operands with
    | [] => misusedNamed p 2 ("missing operand after '" ++ (p.args.getLastD p.name) ++ ['\''])
    | [t] =>
      let last := if p.args.getLast? = some t then t else p.args.getLastD t
      misusedNamed p 2 ("missing operand after '" ++ last ++ ['\''])
    | _ :: _ :: t :: _ => misusedNamed p 2 ("extra operand '" ++ t ++ ['\''])
    | [x, y] =>
      let matcher? (t : Text) : Option Matcher :=
        ((Regex.read (Regex.Dialect.search false) t).toOption).map
          (Matcher.ofRegex false false false)
      let fitting := (a.values 'I').filterMap matcher?
      let heading := ((a.value? 'F').or
        (if a.has 'p' then some "^[[:alpha:]$_]".toList else none)).bind matcher?
      let width := ((a.value? 'W').bind count?).getD 130
      let s : Settings :=
        { form
          ignored := { case := a.has 'i', blanks := a.has 'w', amounts := a.has 'b'
                       atEnd := a.has 'Z', tabs := a.has 'E', emptyLines := a.has 'B', fitting }
          labels := a.values 'L', saysIdentical := a.has 's', asText := a.has 'a'
          recursive := a.has 'r', newFiles := a.has 'N', excluded := a.values 'x'
          withTabs := a.has 't', width, onlyChanges := a.has 'σ', leftOnly := a.has 'λ'
          startsWithTab := a.has 'T', heading
          options := optionText a.operands p.args }
      let names := [x, y]
      let faults := names.filterMap fun name =>
        if isInput p.files name then none
        else
          match p.files.locateWhole name with
          | .ok _ => none
          | .error e =>
            if s.newFiles && e = .notFound &&
              names.any fun n => (p.files.locateWhole n).isOk then none
            else some (p.complaint (name ++ ": " ++ e.reason))
      let rest : Bytes := if names.contains ['-'] then [] else p.input
      if !faults.isEmpty then { p.leave 2 faults with input := rest }
      else if x = y ∧ !p.files.isDir x ∧ form != .beside then
        let out : Transcript := if s.saysIdentical then
            [(.output, Text.bytes ("Files " ++ x ++ " and " ++ y ++ " are identical\n"))]
          else []
        { p.leave 0 out with input := rest }
      else
        let found := comparePaths p s (p.files.nodes.length + 2) true x y
        let code := if found.failed then 2 else if found.differs then 1 else 0
        { p.leave code found.transcript with input := rest }

end AliasShell.Tools
