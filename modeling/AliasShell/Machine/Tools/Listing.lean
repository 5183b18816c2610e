/-
The tool that lists what is in directories.

Names are sorted, shown in one of several styles of quotes, and laid out in lines, in columns, with
commas, or with all that is known of each one.  Columns are as many as fit in a line; what is
between them is filled with tabs where a tab stop lies there.
-/
import AliasShell.Machine.Files.Facts
import AliasShell.Machine.Rights
import AliasShell.Machine.Script.Pattern
import AliasShell.Machine.Tools.Clock
import AliasShell.Machine.Tools.Plain
import AliasShell.Machine.Tools.Progress
import AliasShell.Machine.Tools.Sorting

namespace AliasShell.Tools

namespace Listing

/-! ### What is asked for -/

/-- How names are laid out. -/
inductive Layout where
  | lines
  | details
  | columns
  | across
  | commas
  deriving Repr, DecidableEq

/-- What names are sorted by. -/
inductive Order where
  | name
  | ending
  | size
  | time
  | version
  | width
  | none
  deriving Repr, DecidableEq

/-- How names are quoted. -/
inductive Style where
  | literal
  | shell
  | shellAlways
  | shellEscape
  | shellEscapeAlways
  | double
  | escape
  | single
  deriving Repr, DecidableEq

/-- Which names get a mark for what they name. -/
inductive Marks where
  | none
  | dirs
  | kinds
  | all
  deriving Repr, DecidableEq

/-- Which links are followed. -/
inductive Follow where
  | never
  | toDirs
  | operands
  | always
  deriving Repr, DecidableEq

/-- How sizes are written. -/
inductive Unit where
  | plain (size : Nat)
  /-- with letters behind the number -/
  | lettered (size : Nat) (letters : Text)
  | human (base : Nat)
  deriving Repr, DecidableEq

/-- How a listing is made. -/
structure Plan where
  layout : Layout
  order : Order
  reversed : Bool
  dirsFirst : Bool
  /-- names with a point in front, and those of the directory itself and the one above it -/
  hidden : Bool
  dots : Bool
  /-- patterns of names that are left out: in any case, and where hidden names are left out -/
  ignored : List Text
  concealed : List Text
  backups : Bool
  itself : Bool
  recursive : Bool
  style : Style
  /-- characters that do not show are shown as question marks -/
  masks : Bool
  marks : Marks
  follow : Follow
  serials : Bool
  blocks : Bool
  blockUnit : Unit
  sizeUnit : Unit
  owner : Bool
  group : Bool
  author : Bool
  numeric : Bool
  /-- the formats of the times of files that were changed long ago, and lately -/
  times : Text × Text
  width : Nat
  tab : Nat
  deriving Repr, DecidableEq

/-- Something that is listed. -/
structure Entry where
  name : Text
  path : Text
  loc : Location
  node : Node
  deriving Repr, DecidableEq

/-! ### Names -/

/-- A character in a name between double quotes, or with escapes alone. -/
def escapedChar (style : Style) (c : Char) : Text :=
  if c = '\\' then "\\\\".toList
  else if c = '"' ∧ style = .double then "\\\"".toList
  else if c = '\'' ∧ style = .single then "\\'".toList
  else if c = ' ' ∧ style = .escape then "\\ ".toList
  else if Quoting.isPlain c then [c]
  else Quoting.escaped c

/-- A name between single quotes, or double ones where there is a single one in it. -/
def shellQuoted (t : Text) : Text :=
  if t.contains '\'' && !t.any Quoting.active.contains then '"' :: t ++ ['"']
  else
    '\'' :: (t.flatMap fun c => if c = '\'' then "'\\''".toList else [c]) ++ ['\'']

/-- A name as it is shown. -/
def shownName (plan : Plan) (t : Text) : Text :=
  let mask (t : Text) : Text :=
    if plan.masks then t.map fun c => if Quoting.isPlain c then c else '?' else t
  let isSpecial := t.isEmpty || t.any Quoting.special.contains ||
    (t.head?).any Quoting.specialStarts.contains
  match plan.style with
  | .literal => mask t
  | .shell => mask (if isSpecial then shellQuoted t else t)
  | .shellAlways => mask (shellQuoted t)
  | .shellEscape => Quoting.ifNeeded t
  | .shellEscapeAlways => Quoting.always t
  | .double => '"' :: t.flatMap (escapedChar .double) ++ ['"']
  | .single => '\'' :: t.flatMap (escapedChar .single) ++ ['\'']
  | .escape => t.flatMap (escapedChar .escape)

/-- The mark for what a name names. -/
def markOf (marks : Marks) (node : Node) : Text :=
  match marks, node with
  | .none, _ => []
  | _, .dir _ => ['/']
  | .dirs, _ => []
  | _, .link .. => ['@']
  | .all, .file _ t => if t.runs then ['*'] else []
  | _, _ => []

/-! ### Sizes -/

/-- A size with a letter for its unit, never less than it is; at most `n` units are tried. -/
def humanText (base : Nat) (size : Nat) : Nat → Nat → Text
  | 0, _ => Integer.digits size
  | n + 1, power =>
    let unit := Nat.pow base power
    let letters : Text := if base = 1000 then "kMGTPEZYRQ" else "KMGTPEZYRQ"
    if power = 0 then
      if size < base then Integer.digits size else humanText base size n 1
    else
      let letter := letters[power - 1]?.toList
      let tenths := (10 * size + (unit - 1)) / unit
      let whole := (size + (unit - 1)) / unit
      if tenths < 100 then
        Integer.digits (tenths / 10) ++ '.' :: Integer.digits (tenths % 10) ++ letter
      else if whole < base then Integer.digits whole ++ letter
      else humanText base size n (power + 1)

/-- A number of bytes in some unit. -/
def sizeText (unit : Unit) (bytes : Nat) : Text :=
  match unit with
  | .plain 0 => Integer.digits bytes
  | .plain n => Integer.digits ((bytes + (n - 1)) / n)
  | .lettered n letters => Integer.digits ((bytes + (n - 1)) / n) ++ letters
  | .human base => humanText base bytes 12 0

/-- The room that a node takes. -/
def blocksText (plan : Plan) (node : Node) : Text :=
  sizeText plan.blockUnit (512 * Files.blocksOf node)

/-! ### Order -/

/-- The ending of a name, with its point. -/
def endingOf (t : Text) : Text :=
  match t.cutLast (· == '.') with
  | some (_, ending) => '.' :: ending
  | none => []

/-- How two texts stand. -/
def compareTexts (a b : Text) : Ordering := if a < b then .lt else if b < a then .gt else .eq

/-- How two entries stand. -/
def compareEntries (plan : Plan) (x y : Entry) : Ordering :=
  let byName := compareTexts x.name y.name
  match plan.order with
  | .none => .eq
  | .name => byName
  | .ending => (compareTexts (endingOf x.name) (endingOf y.name)).then byName
  | .size => (compare (Files.sizeOf y.node) (Files.sizeOf x.node)).then byName
  | .time => (compare y.node.modified x.node.modified).then byName
  | .version =>
    (Sorting.compareVersions (Text.bytes x.name) (Text.bytes y.name)).then byName
  | .width =>
    (compare (shownName plan x.name).length (shownName plan y.name).length).then byName

/-- Entries in order. -/
def sorted (plan : Plan) (leadsToDir : Entry → Bool) (es : List Entry) : List Entry :=
  if plan.order = .none then es
  else
    let es := es.mergeSort fun x y =>
      let c := compareEntries plan x y
      (if plan.reversed then c.swap else c) != .gt
    if plan.dirsFirst then es.filter leadsToDir ++ es.filter fun e => !leadsToDir e else es

/-! ### Layout -/

/-- Blanks and tabs from one column to another; at most `n`. -/
def indent (tab : Nat) : Nat → Nat → Nat → Text
  | 0, _, _ => []
  | n + 1, start, stop =>
    if stop ≤ start then []
    else if tab != 0 && (start + 1) / tab < stop / tab then
      '\t' :: indent tab n (start + (tab - start % tab)) stop
    else ' ' :: indent tab n (start + 1) stop

/-- The widths of columns for that many of them, each but the last one with two blanks behind it. -/
def columnWidths (down : Bool) (widths : List Nat) (columns : Nat) : List Nat :=
  let n := widths.length
  let rows := (n + (columns - 1)) / columns
  let place (i : Nat) : Nat := if down then i / rows else i % columns
  let placed := (List.range n).zip widths
  (List.range columns).map fun c =>
    (placed.filter fun e => place e.1 == c).foldl
      (fun most e => max most (e.2 + if c + 1 = columns then 0 else 2)) 3

/-- The widths of as many columns as fit. -/
def fittingWidths (down : Bool) (width : Nat) (widths : List Nat) : List Nat :=
  let most := if width = 0 then widths.length
    else min widths.length (width / 3 + if width % 3 = 0 then 0 else 1)
  let fits (columns : Nat) : Bool :=
    width == 0 || decide ((columnWidths down widths columns).foldl (· + ·) 0 < width)
  let counts := ((List.range most).map (· + 1)).reverse
  columnWidths down widths ((counts.find? fits).getD 1)

/-- A line of names in columns that begins at some column. -/
def columnLine (tab : Nat) : Nat → List (Text × Nat) → Text
  | _, [] => []
  | _, [(t, _)] => t
  | start, (t, width) :: more =>
    let stop := start + width
    t ++ indent tab width (start + t.length) stop ++ columnLine tab stop more

/-- Names in columns, which are filled from above or from the left. -/
def columnLines (plan : Plan) (down : Bool) (names : List Text) : List Text :=
  let widths := fittingWidths down plan.width (names.map List.length)
  let columns := widths.length
  let rows := (names.length + (columns - 1)) / columns
  (List.range rows).map fun row =>
    let line := (List.range columns).filterMap fun c =>
      names[if down then row + c * rows else row * columns + c]?
    columnLine plan.tab 0 (line.zip widths)

/-- Names with commas between them, in lines that are not too long; `pos` is where the line is. -/
def commaText (width : Nat) : Nat → List Text → Text
  | _, [] => ['\n']
  | pos, [t] => if pos = 0 then t ++ ['\n'] else t ++ ['\n']
  | pos, t :: u :: more =>
    let pos := pos + t.length
    if width = 0 ∨ pos + u.length + 2 < width then
      t ++ ", ".toList ++ commaText width (pos + 2) (u :: more)
    else t ++ ",\n".toList ++ commaText width 0 (u :: more)

/-! ### Details -/

/-- A text at the right of a column. -/
def atRight (width : Nat) (t : Text) : Text := List.replicate (width - t.length) ' ' ++ t

/-- A text at the left of a column. -/
def atLeft (width : Nat) (t : Text) : Text := t ++ List.replicate (width - t.length) ' '

/-- The widest of some texts. -/
def widest (ts : List Text) : Nat := (ts.map List.length).foldl max 0

/-- The time of a file; one that was changed in the last half year has the time of day. -/
def timeText (plan : Plan) (p : Process) (node : Node) : Text :=
  let m := node.modified
  let isLate := p.files.now - Moment.ofSeconds 15778476 < m && m ≤ p.files.now
  let format := if isLate then plan.times.2 else plan.times.1
  (Dates.Stamp.ofMoment (zoneOf p) m).text format

/-- What a link holds, behind its name, with a mark for what it leads to. -/
def leadText (plan : Plan) (p : Process) (e : Entry) : Text :=
  match e.node with
  | .link target _ =>
    let mark := match targetAt p.files e.path with
      | .ok (_, node) => markOf plan.marks node
      | .error _ => []
    " -> ".toList ++ shownName plan target ++ (if plan.marks = .dirs then [] else mark)
  | node => markOf plan.marks node

/-- A name with what goes before and after it, where it is not in a line of its own. -/
def frilled (plan : Plan) (p : Process) (serialWidth blockWidth : Nat) (e : Entry) : Text :=
  (if plan.serials then
    atRight serialWidth (Integer.digits (p.files.serialNumber e.loc e.node)) ++ [' '] else []) ++
  (if plan.blocks then atRight blockWidth (blocksText plan e.node) ++ [' '] else []) ++
  shownName plan e.name ++ markOf plan.marks e.node

/-- Lines with all that is known of entries. -/
def detailLines (plan : Plan) (p : Process) (es : List Entry) : List Text :=
  let fs := p.files
  let who : Text := if plan.numeric then ['0'] else "root".toList
  let column (right : Bool) (f : Entry → Text) (e : Entry) : Text :=
    let width := widest (es.map f)
    if right then atRight width (f e) else atLeft width (f e)
  let size (e : Entry) : Text := match e.node with
    | .device _ => "1, 3".toList
    | node => sizeText plan.sizeUnit (Files.sizeOf node)
  es.map fun e =>
    (if plan.serials then
      column true (fun e => Integer.digits (fs.serialNumber e.loc e.node)) e ++ [' '] else []) ++
    (if plan.blocks then column true (fun e => blocksText plan e.node) e ++ [' '] else []) ++
    Files.kindLetter e.node :: Rights.text e.node.mode ++ ' ' ::
    column true (fun e => Integer.digits (fs.linkCount e.loc e.node)) e ++ ' ' ::
    (if plan.owner then who ++ [' '] else []) ++ (if plan.group then who ++ [' '] else []) ++
    (if plan.author then who ++ [' '] else []) ++
    column true size e ++ ' ' :: column false (fun e => timeText plan p e.node) e ++ ' ' ::
    shownName plan e.name ++ leadText plan p e

/-- Entries as they are laid out. -/
def laidOut (plan : Plan) (p : Process) (es : List Entry) : Text :=
  let serialWidth :=
    widest (es.map fun e => Integer.digits (p.files.serialNumber e.loc e.node))
  let blockWidth := widest (es.map fun e => blocksText plan e.node)
  let names := es.map (frilled plan p serialWidth blockWidth)
  let lines (ts : List Text) : Text := ts.flatMap (· ++ ['\n'])
  if es.isEmpty then []
  else
    match plan.layout with
    | .details => lines (detailLines plan p es)
    | .lines => lines names
    | .columns =>
      if plan.width = 0 then "  ".toList.intercalate names ++ ['\n']
      else lines (columnLines plan true names)
    | .across =>
      if plan.width = 0 then "  ".toList.intercalate names ++ ['\n']
      else lines (columnLines plan false names)
    | .commas => commaText plan.width 0 names

/-! ### Directories -/

/-- A name is left out. -/
def isLeftOut (plan : Plan) (name : Text) : Bool :=
  let fits (pattern : Text) : Bool :=
    (Script.Pattern.ofGlyphs (pattern.map fun c => ⟨c, false⟩)).fits name &&
      (name.head? != some '.' || pattern.head? == some '.')
  let isHidden := name.head? = some '.'
  (isHidden && !plan.hidden) || plan.ignored.any fits ||
    (!plan.hidden && plan.concealed.any fits) || (!plan.backups && name.getLast? == some '~')

/-- What is in a directory, and complaints about links that lead nowhere. -/
def entriesIn (plan : Plan) (p : Process) (path : Text) (loc : Location) :
    List Entry × List Text :=
  let fs := p.files
  let dots : List (Text × Location) :=
    if plan.dots then [(['.'], loc), (['.', '.'], loc.dropLast)] else []
  let dots := dots.filterMap fun (name, l) =>
    (fs.node? l).map fun node => (⟨name, Path.join path name, l, node⟩ : Entry)
  let found := (fs.children loc).filter fun e => !isLeftOut plan e.1
  let here := found.map fun (name, node) =>
    (⟨name, Path.join path name, loc ++ [name], node⟩ : Entry)
  let followed := here.map fun e =>
    match e.node, plan.follow with
    | .link .., .always =>
      match targetAt fs e.path with
      | .ok (loc, node) => ({ e with loc, node }, none)
      | .error x => (e, some ("cannot access " ++ Quoting.always e.path ++ ": " ++ x.reason))
    | _, _ => (e, none)
  (dots ++ followed.map (·.1), followed.filterMap (·.2))

/-- An entry is a directory, or a link to one. -/
def leadsToDir (p : Process) (e : Entry) : Bool := e.node.isDir || p.files.isDir e.path

/-- The listings of directories with their titles, and complaints; at most `n` levels. -/
def blocksFor (plan : Plan) (p : Process) (titled : Bool) :
    Nat → Text × Location → List (Text × List Text)
  | 0, _ => []
  | n + 1, (path, loc) =>
    let (es, faults) := entriesIn plan p path loc
    let es := sorted plan (leadsToDir p) es
    let total :=
      if plan.layout = .details ∨ plan.blocks = true then
        let blocks := es.foldl (fun sum e => sum + Files.blocksOf e.node) 0
        "total ".toList ++ sizeText plan.blockUnit (512 * blocks) ++ ['\n']
      else []
    let title := if titled then shownName plan path ++ ":\n".toList else []
    let here := (title ++ total ++ laidOut plan p es, faults)
    let below := if plan.recursive then
        es.filter fun e => e.node.isDir && e.name != ['.'] && e.name != ['.', '.']
      else []
    here :: below.flatMap fun e => blocksFor plan p titled n (e.path, e.loc)

/-! ### Options -/

/-- The words for an order. -/
def orderWords : List (String × Order) :=
  [("none", .none), ("time", .time), ("size", .size), ("extension", .ending),
    ("version", .version), ("width", .width)]

/-- The words for a layout. -/
def layoutWords : List (String × Layout) :=
  [("verbose", .details), ("long", .details), ("commas", .commas), ("horizontal", .across),
    ("across", .across), ("vertical", .columns), ("single-column", .lines)]

/-- The words for quotes. -/
def styleWords : List (String × Style) :=
  [("literal", .literal), ("shell", .shell), ("shell-always", .shellAlways),
    ("shell-escape", .shellEscape), ("shell-escape-always", .shellEscapeAlways), ("c", .double),
    ("c-maybe", .double), ("escape", .escape), ("locale", .single), ("clocale", .single)]

/-- The words for marks. -/
def markWords : List (String × Marks) :=
  [("none", .none), ("slash", .dirs), ("file-type", .kinds), ("classify", .all)]

/-- The words for when something is done, with whether it is done where nobody looks on. -/
def whenWords : List (String × Char) :=
  [("always", 'a'), ("yes", 'a'), ("force", 'a'), ("never", 'n'), ("no", 'n'), ("none", 'n'),
    ("auto", 'u'), ("tty", 'u'), ("if-tty", 'u')]

/-- The words for times. -/
def timeWords : List (String × Char) :=
  [("atime", 'u'), ("access", 'u'), ("use", 'u'), ("ctime", 'c'), ("status", 'c'),
    ("mtime", 'm'), ("modification", 'm'), ("birth", 'b'), ("creation", 'b')]

/-- The formats of times by their names. -/
def timeStyles : List (String × String × String) :=
  [("full-iso", "%Y-%m-%d %H:%M:%S.%N %z", "%Y-%m-%d %H:%M:%S.%N %z"),
    ("long-iso", "%Y-%m-%d %H:%M", "%Y-%m-%d %H:%M"), ("iso", "%Y-%m-%d ", "%m-%d %H:%M"),
    ("locale", "%b %e  %Y", "%b %e %H:%M")]

/-- Its options. -/
def letters : Letters :=
  { plain := "aAbBcCdDfFgGhHiklLmnNopqQrRsStuUvxXZ1αγδζθμσφ", valued := "ITwβιξορτυχ"
    loose := "ψωκ"
    long := [("all", 'a'), ("escape", 'b'), ("directory", 'd'), ("dired", 'D'),
      ("full-time", 'ζ'), ("group-directories-first", 'γ'), ("human-readable", 'h'),
      ("inode", 'i'), ("kibibytes", 'k'), ("numeric-uid-gid", 'n'), ("no-group", 'G'),
      ("hide-control-chars", 'q'), ("reverse", 'r'), ("size", 's'), ("width", 'w'),
      ("almost-all", 'A'), ("ignore-backups", 'B'), ("classify", 'ψ'), ("file-type", 'φ'),
      ("si", 'σ'), ("dereference-command-line", 'H'),
      ("dereference-command-line-symlink-to-dir", 'δ'), ("hide", 'χ'), ("ignore", 'I'),
      ("indicator-style", 'ι'), ("dereference", 'L'), ("literal", 'N'), ("quote-name", 'Q'),
      ("quoting-style", 'ξ'), ("recursive", 'R'), ("format", 'ο'), ("show-control-chars", 'μ'),
      ("sort", 'ρ'), ("tabsize", 'T'), ("time", 'τ'), ("time-style", 'υ'), ("zero", 'θ'),
      ("color", 'ω'), ("hyperlink", 'κ'), ("block-size", 'β'), ("context", 'Z'),
      ("author", 'α')] }

/-- A plan with nothing asked for. -/
def usual (p : Process) : Plan :=
  { layout := .lines, order := .name, reversed := false, dirsFirst := false, hidden := false
    dots := false, ignored := [], concealed := [], backups := true, itself := false
    recursive := false, style := .literal, masks := false, marks := .none, follow := .never
    serials := false, blocks := false, blockUnit := .plain 1024, sizeUnit := .plain 0
    owner := true, group := true, author := false, numeric := false
    times := ("%b %e  %Y".toList, "%b %e %H:%M".toList)
    width := ((p.var? "COLUMNS").bind count?).getD 80
    tab := ((p.var? "TABSIZE").bind count?).getD 8 }

/-- The formats of times that a style gives. -/
def timesOf (p : Process) (t : Text) : Except Aftermath (Text × Text) :=
  match t with
  | '+' :: format =>
    match Text.cutFirst (· == '\n') format with
    | some (old, late) => .ok (old, late)
    | none => .ok (format, format)
  | _ =>
    let name := if "posix-".toList.isPrefixOf t then t.drop 6 else t
    match timeStyles.find? fun e => e.1.toList == name with
    | some (_, old, late) => .ok (old.toList, late.toList)
    | none =>
      .error (p.leave 2
        [p.complaint ("invalid argument " ++ Quoting.cited t ++ " for 'time style'"),
          (.errors, Text.bytes ("Valid arguments are:\n" ++ "  - [posix-]full-iso\n" ++
            "  - [posix-]long-iso\n" ++ "  - [posix-]iso\n" ++ "  - [posix-]locale\n" ++
            "  - +FORMAT (e.g., +%H:%M) for a 'date'-style format\n")), hint p])

/-- The plan with one more option. -/
def Plan.with (p : Process) (plan : Plan) (option : Char × Text) : Except Aftermath Plan :=
  let (c, t) := option
  match c with
  | 'a' => .ok { plan with hidden := true, dots := true }
  | 'A' => .ok { plan with hidden := true, dots := false }
  | 'b' => .ok { plan with style := .escape }
  | 'B' => .ok { plan with backups := false }
  | 'C' => .ok { plan with layout := .columns }
  | 'd' => .ok { plan with itself := true }
  | 'f' =>
    .ok { plan with
      hidden := true, dots := true, order := .none
      layout := if plan.layout = .details then .lines else plan.layout }
  | 'F' => .ok { plan with marks := .all }
  | 'g' => .ok { plan with layout := .details, owner := false }
  | 'G' => .ok { plan with group := false }
  | 'h' => .ok { plan with sizeUnit := .human 1024, blockUnit := .human 1024 }
  | 'σ' => .ok { plan with sizeUnit := .human 1000, blockUnit := .human 1000 }
  | 'i' => .ok { plan with serials := true }
  | 'k' => .ok { plan with blockUnit := .plain 1024 }
  | 'l' => .ok { plan with layout := .details }
  | 'm' => .ok { plan with layout := .commas }
  | 'n' => .ok { plan with layout := .details, numeric := true }
  | 'N' => .ok { plan with style := .literal }
  | 'o' => .ok { plan with layout := .details, group := false }
  | 'p' => .ok { plan with marks := .dirs }
  | 'q' => .ok { plan with masks := true }
  | 'μ' => .ok { plan with masks := false }
  | 'Q' => .ok { plan with style := .double }
  | 'r' => .ok { plan with reversed := true }
  | 'R' => .ok { plan with recursive := true }
  | 's' => .ok { plan with blocks := true }
  | 'S' => .ok { plan with order := .size }
  | 't' => .ok { plan with order := .time }
  | 'U' => .ok { plan with order := .none }
  | 'v' => .ok { plan with order := .version }
  | 'x' => .ok { plan with layout := .across }
  | 'X' => .ok { plan with order := .ending }
  | '1' => .ok (if plan.layout = .details then plan else { plan with layout := .lines })
  | 'α' => .ok { plan with author := true }
  | 'γ' => .ok { plan with dirsFirst := true }
  | 'ζ' => (timesOf p "full-iso".toList).map fun times => { plan with layout := .details, times }
  | 'I' => .ok { plan with ignored := t :: plan.ignored }
  | 'χ' => .ok { plan with concealed := t :: plan.concealed }
  | 'φ' => .ok { plan with marks := .kinds }
  | 'ι' => (choose p "indicator-style" markWords t).map fun marks => { plan with marks }
  | 'ξ' => (choose p "quoting-style" styleWords t).map fun style => { plan with style }
  | 'ο' => (choose p "format" layoutWords t).map fun layout => { plan with layout }
  | 'ρ' => (choose p "sort" orderWords t).map fun order => { plan with order }
  | 'τ' => (choose p "time" timeWords t).map fun _ => plan
  | 'υ' => (timesOf p t).map fun times => { plan with times }
  | 'ω' => if t.isEmpty then .ok plan else (choose p "color" whenWords t).map fun _ => plan
  | 'κ' => if t.isEmpty then .ok plan else (choose p "hyperlink" whenWords t).map fun _ => plan
  | 'ψ' =>
    if t.isEmpty then .ok { plan with marks := .all }
    else
      (choose p "classify" whenWords t).map fun c =>
        if c = 'a' then { plan with marks := .all } else plan
  | 'w' =>
    match size? t with
    | some width => .ok { plan with width }
    | none => failWith p 2 ("invalid line width: ".toList ++ Quoting.cited t)
  | 'T' =>
    match size? t with
    | some tab => .ok { plan with tab }
    | none => failWith p 2 ("invalid tab size: ".toList ++ Quoting.cited t)
  | 'β' =>
    match t.dropWhile Char.isDigit, size? t with
    | _, some n => .ok { plan with blockUnit := .plain n, sizeUnit := .plain n }
    | _, none =>
      if t = "human-readable".toList then
        .ok { plan with sizeUnit := .human 1024, blockUnit := .human 1024 }
      else if t = "si".toList then
        .ok { plan with sizeUnit := .human 1000, blockUnit := .human 1000 }
      else
        match multiplier? t with
        | some n =>
          if t.isEmpty then .ok plan
          else .ok { plan with blockUnit := .lettered n t, sizeUnit := .lettered n t }
        | none => failWith p 2 ("invalid --block-size argument ".toList ++ Quoting.cited t)
  | _ => .ok plan

/-- The plan that options make. -/
def planOf (p : Process) (a : Asked) : Except Aftermath Plan := do
  let plan := usual p
  let plan := match (p.var? "QUOTING_STYLE").bind fun t =>
      styleWords.find? fun e => e.1.toList == t with
    | some e => { plan with style := e.2 }
    | none => plan
  let plan ← a.options.foldlM (Plan.with p) plan
  let follow : Follow := match a.lastOf "HLδ" with
    | some 'L' => .always
    | some 'H' => .operands
    | some _ => .toDirs
    | none =>
      if plan.itself || plan.layout = .details || plan.marks = .all then .never else .toDirs
  return { plan with follow }

/-! ### The tool -/

/-- What an operand names, as it is to be listed. -/
def found (plan : Plan) (fs : Files) (name : Text) : Except SysError (Location × Node) :=
  match plan.follow with
  | .never => nodeAt fs name
  | .always => targetAt fs name
  | .operands => targetAt fs name
  | .toDirs =>
    match targetAt fs name with
    | .ok (loc, node) => if node.isDir then .ok (loc, node) else nodeAt fs name
    | .error _ => nodeAt fs name

/-- Lists what operands name. -/
def run (p : Process) (a : Asked) : Except Aftermath Aftermath := do
  let plan ← planOf p a
  let names := if a.operands.isEmpty then [['.']] else a.operands
  let known := names.map fun name => (name, found plan p.files name)
  let faults := known.filterMap fun (name, e) =>
    match e with
    | .ok _ => none
    | .error e => some ("cannot access " ++ Quoting.always name ++ ": " ++ e.reason)
  let es := known.filterMap fun (name, e) =>
    e.toOption.map fun (loc, node) => (⟨name, name, loc, node⟩ : Entry)
  let es := sorted plan (leadsToDir p) es
  let files := es.filter fun e => plan.itself || !e.node.isDir
  let dirs := es.filter fun e => !plan.itself && e.node.isDir
  let titled := plan.recursive || 1 < names.length
  let first := laidOut plan p files
  let blocks := dirs.flatMap fun e =>
    blocksFor plan p titled (p.files.nodes.length + 1) (e.path, e.loc)
  let blocks := if files.isEmpty then blocks else (first, []) :: blocks
  let separated : Nat → Text × List Text → Transcript := fun i (t, faults) =>
    faults.map p.complaint ++ [(.output, Text.bytes (if i = 0 then t else '\n' :: t))]
  let transcript := (List.range blocks.length).zip blocks |>.flatMap fun (i, b) => separated i b
  let isFaulty := transcript.any (·.1 == .errors)
  return p.leave (if !faults.isEmpty then 2 else if isFaulty then 1 else 0)
    (faults.map p.complaint ++ transcript)

end Listing

/-- The names in directories. -/
def ls : Tool := taking Listing.letters 2 fun p a => settle (Listing.run p a)

/-- The names in directories, in columns. -/
def dir : Tool :=
  taking Listing.letters 2 fun p a =>
    settle (Listing.run p { a with options := [('C', []), ('b', [])] ++ a.options })

/-- The names in directories, with all that is known of them. -/
def vdir : Tool :=
  taking Listing.letters 2 fun p a =>
    settle (Listing.run p { a with options := [('l', []), ('b', [])] ++ a.options })

end AliasShell.Tools
