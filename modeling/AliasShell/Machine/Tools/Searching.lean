/-
The tool that searches lines for regular expressions and shows those that hold a match.

What is shown of a content is decided in three steps: which lines are selected, which other lines
stand around them, and what is written in front of each.
-/
import AliasShell.Machine.Regex.Matcher
import AliasShell.Machine.Tools.Contents

namespace AliasShell.Tools

namespace Searching

/-! ### What is asked for -/

/-- What is searched for, and what is shown. -/
structure Query where
  matcher : Matcher
  /-- The lines that hold no match are selected. -/
  inverted : Bool
  /-- The byte that lines end with. -/
  lineEnd : UInt8
  /-- No more lines than these are selected of one content. -/
  most : Option Nat
  /-- How many lines are shown in front of a selected one and behind it, and what stands between
  lines that do not follow each other. -/
  before : Nat
  after : Nat
  between : Option Bytes

/-- A line with its number and the place at which it begins. -/
structure Row where
  number : Nat
  offset : Nat
  line : Bytes

/-- The rows of a content. -/
def rows (q : Query) (b : Bytes) : List Row :=
  let lines := if q.lineEnd = 10 then b.lines else (swapEnds b).lines.map swapEnds
  (lines.foldl
    (fun (n, offset, done) line =>
      (n + 1, offset + line.length + 1, (⟨n, offset, line⟩ : Row) :: done))
    ((1 : Nat), (0 : Nat), ([] : List Row))).2.2.reverse

/-- The row is selected. -/
def selects (q : Query) (r : Row) : Bool := q.matcher.isIn r.line.toArray != q.inverted

/-- The places of the matches in a line that are not empty; at most `n`. -/
def pieces (q : Query) (t : Array UInt8) : Nat → Nat → List (Nat × Nat)
  | 0, _ => []
  | n + 1, i =>
    match q.matcher.span? t i with
    | none => []
    | some (a, b) => if b ≤ a then pieces q t n (max a i + 1) else (a, b) :: pieces q t n b

/-! ### Which rows are shown -/

/-- A row that is shown: whether it was selected, and whether it does not follow the one before. -/
structure Shown where
  row : Row
  selected : Bool
  apart : Bool

/-- What is known while rows are looked at one after another. -/
structure View where
  /-- The last rows that were not shown, the last one first. -/
  waiting : List Row
  /-- How many more rows follow a selected one. -/
  owed : Nat
  /-- How many more rows may be selected. -/
  left : Option Nat
  /-- Something was shown; rows were left out since. -/
  begun : Bool
  skipped : Bool
  count : Nat
  shown : List Shown

/-- Looks at one more row. -/
def look (q : Query) (v : View) (r : Row) : View :=
  let stopped := v.left = some 0
  if stopped && v.owed == 0 then v
  else if !stopped && selects q r then
    let front := (v.waiting.take q.before).reverse
    let apart := v.begun && (v.skipped || q.before < v.waiting.length)
    let rows := (front.map fun r => (r, false)) ++ [(r, true)]
    let fresh := rows.mapIdx fun i (r, selected) => (⟨r, selected, apart && i == 0⟩ : Shown)
    { v with
      waiting := [], owed := q.after, left := v.left.map (· - 1), begun := true, skipped := false
      count := v.count + 1, shown := fresh.reverse ++ v.shown }
  else if 0 < v.owed then
    { v with owed := v.owed - 1, shown := ⟨r, false, false⟩ :: v.shown }
  else
    { v with
      waiting := r :: v.waiting.take q.before
      skipped := v.skipped || q.before ≤ v.waiting.length }

/-- The rows of a content that are shown, and how many of them were selected.  `begun` says that
rows of another content were shown before. -/
def viewed (q : Query) (begun : Bool) (b : Bytes) : Nat × List Shown :=
  let v := (rows q b).foldl (look q)
    { waiting := [], owed := 0, left := q.most, begun, skipped := begun, count := 0, shown := [] }
  (v.count, v.shown.reverse)

/-! ### How a row is shown -/

/-- What is written of a row. -/
structure Format where
  /-- The name of the content in front. -/
  name : Option Bytes
  /-- The byte behind the name, if it is no mark. -/
  nameEnd : Option UInt8
  numbers : Bool
  offsets : Bool
  tabs : Bool
  onlyMatches : Bool
  colours : Bool

/-- Bytes in a colour. -/
def coloured (f : Format) (code : String) (b : Bytes) : Bytes :=
  if f.colours then
    Text.bytes ("\x1b[" ++ code.toList ++ "m\x1b[K") ++ b ++ Text.bytes "\x1b[m\x1b[K"
  else b

/-- What stands in front of a row or a match; `mark` says whether the row was selected. -/
def front (f : Format) (mark : UInt8) (number offset : Nat) : Bytes :=
  let sep := coloured f "36" [mark]
  let wide (n : Nat) : Bytes :=
    let ds := Integer.digits n
    Text.bytes (List.replicate ((if f.tabs then 2 else 0) - ds.length) ' ' ++ ds)
  let name : Bytes := match f.name with
    | some name => coloured f "35" name ++ (match f.nameEnd with
      | some b => [b]
      | none => sep)
    | none => []
  let head := name ++ (if f.numbers then coloured f "32" (wide number) ++ sep else []) ++
    (if f.offsets then coloured f "32" (wide offset) ++ sep else [])
  if f.tabs && !head.isEmpty then head ++ [9] else head

/-- A line with its matches in colour; `i` is where the rest of it begins. -/
def highlighted (f : Format) (t : Array UInt8) : Nat → List (Nat × Nat) → Bytes
  | i, [] => (t.extract i t.size).toList
  | i, (a, b) :: more =>
    (t.extract i a).toList ++ coloured f "01;31" (t.extract a b).toList ++ highlighted f t b more

/-- A row as it is written. -/
def written (q : Query) (f : Format) (s : Shown) : Bytes :=
  let gap : Bytes := match q.between with
    | some b => if s.apart then coloured f "36" b ++ [10] else []
    | none => []
  let r := s.row
  let t := r.line.toArray
  let mark : UInt8 := if s.selected then 58 else 45
  gap ++
    if f.onlyMatches then
      if !s.selected || q.inverted then []
      else
        (pieces q t (t.size + 1) 0).flatMap fun (a, b) =>
          front f mark r.number (r.offset + a) ++ coloured f "01;31" (t.extract a b).toList ++
            [q.lineEnd]
    else
      let body := if f.colours && s.selected && !q.inverted then
          highlighted f t 0 (pieces q t (t.size + 1) 0)
        else r.line
      front f mark r.number r.offset ++ body ++ [q.lineEnd]

/-! ### Contents -/

/-- What is shown of a content as a whole. -/
inductive Summary where
  | rows
  | count
  /-- its name if a line was selected, or if none was -/
  | name (hit : Bool)
  | nothing
  deriving Repr, DecidableEq

/-- What a content comes to: how many rows were selected, what is written, and a complaint. -/
structure Result where
  count : Nat
  output : Bytes
  complaint : Option Text := none

/-- Searches a content.  One that holds a zero is no text, and its rows are not shown. -/
def search (q : Query) (f : Format) (s : Summary) (asText skipsBinary begun : Bool) (label : Text)
    (b : Bytes) : Result :=
  let isBinary := !asText && q.lineEnd == 10 && b.contains 0
  let nameLine := coloured f "35" (Text.bytes label) ++ [f.nameEnd.getD 10]
  if isBinary && skipsBinary then ⟨0, [], none⟩
  else
    match s with
    | .rows =>
      let (count, shown) := viewed q begun b
      if isBinary then
        ⟨count, [], if count = 0 then none else some (label ++ ": binary file matches")⟩
      else ⟨count, shown.flatMap (written q f), none⟩
    | .count =>
      let count := (viewed q false b).1
      let head : Bytes := match f.name with
        | some name => coloured f "35" name ++ (match f.nameEnd with
          | some e => [e]
          | none => coloured f "36" [58])
        | none => []
      ⟨count, head ++ Text.bytes (Integer.digits count ++ ['\n']), none⟩
    | .name hit =>
      let found := q.most != some 0 && (rows q b).any (selects q)
      ⟨if found then 1 else 0, if found == hit then nameLine else [], none⟩
    | .nothing => ⟨if q.most != some 0 && (rows q b).any (selects q) then 1 else 0, [], none⟩

/-! ### Files -/

/-- A path is left out because of its name. -/
def isLeftOut (included excluded : List Text) (name : Text) : Bool :=
  let fits (t : Text) : Bool := Script.Pattern.fits (.ofGlyphs (Script.Glyph.ofText false t)) name
  (!included.isEmpty && !included.any fits) || excluded.any fits

/-- Which files are searched. -/
structure Choice where
  recursive : Bool
  /-- Links below the directories that were named are followed. -/
  follows : Bool
  included : List Text
  excluded : List Text
  excludedDirs : List Text

/-- The files below a directory; at most `n` levels. -/
def below (c : Choice) (fs : Files) : Nat → Text → List Text
  | 0, _ => []
  | n + 1, dir =>
    ((fs.readDir (if dir.isEmpty then ['.'] else dir)).toOption.getD []).flatMap fun (name, node) =>
      let path := if dir.isEmpty then name
        else if dir.getLast? = some '/' then dir ++ name else dir ++ '/' :: name
      let isDir := match node with
        | .dir _ => true
        | .link _ _ => c.follows && fs.isDir path
        | _ => false
      let isFile := match node with
        | .file _ _ => true
        | .link _ _ => c.follows && !isDir
        | _ => false
      if isDir then
        if isLeftOut [] c.excludedDirs name then [] else below c fs n path
      else if isFile && !isLeftOut c.included c.excluded name then [path]
      else []

/-- The files that an operand stands for, and whether it is a directory. -/
def filesOf (c : Choice) (fs : Files) (name : Text) : List Text × Bool :=
  let last := (((Files.bare name).cutLast (· == '/')).map (·.2)).getD (Files.bare name)
  if name = ['-'] then ([name], false)
  else if c.recursive && (name.isEmpty || fs.isDir name) then
    if isLeftOut [] c.excludedDirs (if name.isEmpty then ['.'] else last) then ([], true)
    else (below c fs (fs.nodes.length + 1) name, true)
  else if isLeftOut c.included c.excluded last then ([], false)
  else ([name], false)

/-! ### The tool -/

/-- The letters that are known. -/
def letters : Letters :=
  { plain := "EFGPivycnqoxwlLhHsabrRUTZzuI0123456789νβμV", valued := "efmABCdDXιξδκλ", loose := "χγ"
    long := [("extended-regexp", 'E'), ("fixed-strings", 'F'), ("fixed-regexp", 'F'),
      ("basic-regexp", 'G'), ("perl-regexp", 'P'), ("ignore-case", 'i'), ("no-ignore-case", 'ν'),
      ("invert-match", 'v'), ("count", 'c'), ("line-number", 'n'), ("quiet", 'q'), ("silent", 'q'),
      ("only-matching", 'o'), ("line-regexp", 'x'), ("word-regexp", 'w'),
      ("files-with-matches", 'l'), ("files-without-match", 'L'), ("no-filename", 'h'),
      ("with-filename", 'H'), ("no-group-separator", 'μ'), ("no-messages", 's'), ("text", 'a'),
      ("byte-offset", 'b'),
      ("recursive", 'r'), ("dereference-recursive", 'R'), ("initial-tab", 'T'), ("null", 'Z'),
      ("null-data", 'z'), ("regexp", 'e'), ("file", 'f'), ("max-count", 'm'),
      ("after-context", 'A'), ("before-context", 'B'), ("context", 'C'), ("directories", 'd'),
      ("devices", 'D'), ("include", 'ι'), ("exclude", 'ξ'), ("exclude-dir", 'δ'),
      ("binary-files", 'κ'), ("label", 'λ'), ("color", 'χ'), ("colour", 'χ'),
      ("line-buffered", 'β'), ("binary", 'U'), ("group-separator", 'γ')]
    package := "(GNU grep) 3.11"
    usage := "[OPTION]... PATTERNS [FILE]..." }

/-- Ends because of how the tool was called. -/
def misusedSearch (p : Process) (t : Option Text) : Aftermath :=
  let complaints := match t with
    | some t => [p.complaint t]
    | none => []
  p.leave 2 (complaints ++
    [(.errors, Text.bytes (usageLine p letters.usage ++ ['\n'])), hint p])

/-- A number of lines around others. -/
def contextOf (t : Text) : Except Text Nat :=
  match count? t with
  | some n => .ok n
  | none => .error (t ++ ": invalid context length argument")

/-- The digits among options as one number. -/
def digitsOf (a : Asked) : Option Nat :=
  let ds := (a.options.map (·.1)).filter Char.isDigit
  if ds.isEmpty then none else some (Integer.ofDigits ds)

/-- The lines in front and behind that are asked for, and whether any are. -/
def contexts (a : Asked) : Except Text (Nat × Nat × Bool) := do
  let all ← (a.values 'C').mapM contextOf
  let befores ← (a.values 'B').mapM contextOf
  let afters ← (a.values 'A').mapM contextOf
  let both := (all.getLast?).or (digitsOf a)
  return ((befores.getLast?.or both).getD 0, (afters.getLast?.or both).getD 0,
    (befores.getLast?.or (afters.getLast?.or both)).isSome)

/-- How expressions are written. -/
inductive Kind where
  | basic
  | extended
  | fixed
  | rich
  deriving Repr, DecidableEq

/-- The wording of a fault in the richest way of writing. -/
def richMessage : Regex.Fault → Text
  | .opening => "missing closing parenthesis"
  | .closing => "unmatched closing parenthesis"
  | .brackets => "missing terminating ] for character class"
  | .preceding => "quantifier does not follow a repeatable item"
  | .content => "numbers out of order in \x7b\x7d quantifier"
  | .size => "number too big in \x7b\x7d quantifier"
  | .backslash => "\\ at end of pattern"
  | .reference => "reference to non-existent subpattern"
  | .className => "unknown POSIX class name"
  | .rangeEnd => "range out of order in character class"
  | f => f.message

/-- What asks in the richest way of writing that letters fit in both cases. -/
def foldMark : Text := "(?i)"

/-- An expression without the mark in front. -/
def withoutFold (t : Text) : Text := if t.startsWith foldMark then t.drop foldMark.length else t

/-- One expression, and the counts in it that count nothing. -/
def readOne (k : Kind) (t : Text) : Except Text (Regex × List String) :=
  match k with
  | .fixed => .ok (Regex.literally t, [])
  | .rich => (Regex.readWith .searchRich (withoutFold t)).mapError richMessage
  | k =>
    match Regex.readWith (.search (k == .extended)) t with
    | .error .brackets =>
      .error (if t = ['['] then "Invalid regular expression" else Regex.Fault.message .brackets)
    | .error f => .error f.message
    | .ok r => .ok r

/-- The options that say how expressions are written. -/
def kinds : List (Text × Kind) :=
  [("E", .extended), ("F", .fixed), ("G", .basic), ("P", .rich), ("egrep", .extended),
    ("grep", .basic), ("fgrep", .fixed), ("awk", .extended), ("gawk", .extended),
    ("posixawk", .extended), ("perl", .rich)].map fun (t, k) => (t.toList, k)

/-- How expressions are written by the options: the last one counts. -/
def kindOf (a : Asked) : Except Text Kind :=
  let asked := a.options.filterMap fun (c, t) =>
    if c = 'X' then some t else if "EFGP".toList.contains c then some [c] else none
  let rec go : List Text → Option Kind → Except Text Kind
    | [], k => .ok (k.getD .basic)
    | t :: ts, k =>
      match kinds.lookup t, k with
      | none, _ => .error ("invalid matcher " ++ t)
      | some new, some old =>
        if (old = .rich) != (new = .rich) ∧ new != .fixed then
          .error "conflicting matchers specified"
        else go ts (some new)
      | some new, none => go ts (some new)
  go asked none

/-- The texts of all expressions: those of options, or the first operand; and the other operands. -/
def patternTexts (p : Process) (a : Asked) : Except (Text × SysError) (List Text × List Text) := do
  let given ← (a.options.filter fun o => o.1 == 'e' || o.1 == 'f').mapM fun (c, t) =>
    if c = 'e' then pure (Text.cut (· == '\n') t)
    else
      match (if t = ['-'] then .ok p.input else readFile p t) with
      | .ok b => pure (b.lines.map Bytes.numbered)
      | .error e => throw (t, e)
  match a.hasAny "ef", a.operands with
  | true, names => return (given.flatten, names)
  | false, t :: names => return (Text.cut (· == '\n') t, names)
  | false, [] => return ([], [])

/-- What a number of options say about how names are shown. -/
def namesShown (a : Asked) (count : Nat) (anyDir : Bool) : Bool :=
  match a.lastOf "hH" with
  | some 'H' => true
  | some _ => false
  | none => 1 < count || anyDir

/-- What is searched of each operand, and what comes of it, one after another. -/
def run (p : Process) (a : Asked) (q : Query) (f : Bool → Text → Format) (s : Summary)
    (c : Choice) (names : List Text) : Aftermath :=
  let found := names.flatMap fun name =>
    let (files, isDir) := filesOf c p.files name
    files.map fun file => (file, isDir)
  let label (name : Text) : Text :=
    if name = ['-'] then (a.value? 'λ').getD "(standard input)" else name
  let skipsDirs := a.value? 'd' = some "skip".toList
  let asText := a.has 'a' || a.value? 'κ' = some "text".toList
  let skipsBinary := a.lastOf "aIκ" = some 'I' || a.value? 'κ' = some "without-match".toList
  let step (w : Nat × Bool × Bool × Bytes × Transcript) (file : Text × Bool) :
      Nat × Bool × Bool × Bytes × Transcript :=
    let (hits, failed, begun, input, done) := w
    let (name, inDir) := file
    if s == .nothing && hits != 0 then w
    else
      let isIn := isInput p.files name
      let content : Except SysError Bytes := if isIn then .ok input else readFile p name
      match content with
      | .error e =>
        if e = .isDirectory ∧ skipsDirs = true then w
        else
          let complaints := if a.has 's' then [] else [p.complaint (name ++ ": " ++ e.reason)]
          let lines := if e = .isDirectory then
              (search q (f inDir name) s asText skipsBinary begun name []).output
            else []
          (hits, true, begun, input, done ++ complaints ++ [(.output, lines)])
      | .ok b =>
        let r := search q (f inDir (label name)) s asText skipsBinary begun (label name) b
        let complaints := match r.complaint with
          | some t => [p.complaint t]
          | none => []
        (hits + r.count, failed, begun || r.count != 0, if isIn then [] else input,
          done ++ (.output, r.output) :: complaints)
  let (hits, failed, _, input, done) := found.foldl step (0, false, false, p.input, [])
  let code : Int :=
    if failed && !(hits != 0 && s == .nothing) then 2 else if hits != 0 then 0 else 1
  let rest : Bytes := match q.most, p.position, names with
    | some n, some _, [['-']] =>
      let ends := ((rows q p.input).filter (selects q)).take n
      match ends.getLast? with
      | some r => if ends.length = n then p.input.drop (r.offset + r.line.length + 1) else []
      | none => if n = 0 then p.input else []
    | _, _, _ => input
  { p.leave code done with input := rest }

end Searching

open Searching in
/-- Shows the lines of contents that hold a match; `kind` is the option that is always on. -/
def grep (kind : Text) : Tool := fun p =>
  let p := if kind.isEmpty then p else { p with name := "grep" }
  match readAsked letters p.args.length p.args with
  | .error t => misusedSearch p (some t)
  | .ok a =>
    match aboutSelf? p letters (if a.has 'V' then ⟨[(versionLetter, [])], []⟩ else a) with
    | some done => done
    | none =>
      let a := { a with options := kind.map (fun c => (c, [])) ++ a.options }
      let refuse (t : Text) : Aftermath := p.refuse 2 t
      match contexts a, kindOf a, patternTexts p a with
      | .error t, _, _ | _, .error t, _ => refuse t
      | _, _, .error (name, e) => refuse (name ++ ": " ++ e.reason)
      | .ok (before, after, grouped), .ok k, .ok (texts, names) =>
        let most := (a.value? 'm').map count?
        if !a.hasAny "ef" && a.operands.isEmpty then misusedSearch p none
        else if most = some none then refuse "invalid max count"
        else if (a.value? 'κ').any fun t =>
            ["binary", "text", "without-match"].all (·.toList != t) then refuse "unknown binary-files type"
        else
          match texts.mapM (readOne k) with
          | .error t => refuse t
          | .ok found =>
            let wrap (r : Regex) : Regex :=
              if a.has 'x' then r.wholeLine else if a.has 'w' then r.wholeWord else r
            let warnings := (found.flatMap (·.2)).map fun t =>
              p.complaint ("warning: " ++ t.toList ++ " at start of expression")
            let folds := a.lastOf "iyν" = some 'i' || a.lastOf "iyν" = some 'y' ||
              (k == .rich && texts.any fun t => t.startsWith foldMark)
            let matcher := Matcher.ofRegex folds false (k == .rich)
              (Regex.oneOf (found.map fun (r, _) => wrap r))
            let between : Option Bytes :=
              if !grouped || a.has 'μ' then none
              else some (match a.value? 'γ' with
                | some t => Text.bytes t
                | none => [45, 45])
            let q : Query :=
              { matcher, inverted := a.has 'v', lineEnd := if a.has 'z' then 0 else 10
                most := most.bind id, before, after, between }
            let summary : Summary :=
              if a.has 'q' then .nothing
              else
                match a.lastOf "lL" with
                | some c => .name (c == 'l')
                | none => if a.has 'c' then .count else .rows
            let recursive := a.hasAny "rR" || a.value? 'd' = some "recurse".toList
            let choice : Choice :=
              { recursive, follows := a.lastOf "rR" = some 'R', included := a.values 'ι'
                excluded := a.values 'ξ', excludedDirs := (a.values 'δ').map Files.bare }
            let names := if names.isEmpty then [if recursive then [] else ['-']] else names
            let colours := match a.value? 'χ' with
              | some t => t = "always".toList
              | none => false
            let format (inDir : Bool) (label : Text) : Format :=
              { name := if namesShown a names.length inDir then some (Text.bytes label) else none
                nameEnd := if a.has 'Z' then some 0 else none
                numbers := a.has 'n', offsets := a.has 'b', tabs := a.has 'T'
                onlyMatches := a.has 'o', colours }
            let done := Searching.run p a q format summary choice names
            { done with transcript := warnings ++ done.transcript }

end AliasShell.Tools
