/-
Reading what is to be found.

The words are read one by one into items: tests and actions, the signs between them and parentheses.
Where nothing stands between two items that both can be held against a file, both have to hold.
Expressions in which nothing is done are put in parentheses and followed by the writing of paths;
both are told from what the user wrote, since complaints speak of that alone.
-/
import AliasShell.Machine.Dates.Reader
import AliasShell.Machine.Number.Quantity
import AliasShell.Machine.Regex.Matcher
import AliasShell.Machine.Script.Pattern
import AliasShell.Machine.Tools.Finding.Report
import AliasShell.Machine.Tools.Identity

namespace AliasShell.Tools.Finding

/-! ### Words -/

/-- Why the word behind a word of an expression is refused. -/
inductive Refusal where
  /-- there is none -/
  | missing
  | invalid (t : Text)
  /-- a complaint of its own -/
  | said (t : Text)
  deriving Repr, DecidableEq

/-- What the words so far have settled. -/
structure Settings where
  follow : Follow := .never
  deep : Bool := false
  /-- it was asked for by name that what is in a directory comes before it -/
  deepAsked : Bool := false
  least : Nat := 0
  most : Option Nat := none
  /-- ages are those at the end of the day -/
  fullDays : Bool := false
  dialect : Regex.Dialect := .path
  /-- something is done with what is found -/
  acts : Bool := false
  deletes : Bool := false
  prunes : Bool := false
  /-- how many programs are started -/
  commands : Nat := 0
  /-- the user is asked something -/
  asks : Bool := false
  /-- the files that are written to -/
  opened : List Text := []
  warnings : List Text := []

/-- What reading a word comes to. -/
abbrev Outcome := Except Refusal (Settings × Expression × List Text)

/-- How a word of an expression is read, with the words behind it. -/
abbrev WordReader := Process → Settings → List Text → Outcome

/-- A word that stands alone. -/
def lone (looks : Bool) (holds : Files → Visit → Bool) : WordReader := fun _ s rest =>
  .ok (s, .test looks holds, rest)

/-- A word that changes how files are looked for. -/
def setting (change : Settings → Settings) : WordReader := fun _ s rest =>
  .ok (change s, .always, rest)

/-- A word with one behind it. -/
def valued (read : Process → Settings → Text → Except Refusal (Settings × Expression)) :
    WordReader := fun p s args =>
  match args with
  | [] => .error .missing
  | t :: rest => (read p s t).map fun (s, e) => (s, e, rest)

/-- A test with a word behind it. -/
def testOf (looks : Bool)
    (read : Process → Settings → Text → Except Refusal (Files → Visit → Bool)) : WordReader :=
  valued fun p s t => (read p s t).map fun holds => (s, .test looks holds)

/-- An action that stands alone. -/
def acting (a : Action) : WordReader := fun _ s rest =>
  .ok ({ s with acts := true }, .act a, rest)

/-! ### Numbers -/

/-- Which numbers are meant. -/
inductive Side where
  | equal
  | above
  | below
  deriving Repr, DecidableEq

/-- The side that a sign in front of a number is for. -/
def sideOf : Text → Side × Text
  | '+' :: t => (.above, t)
  | '-' :: t => (.below, t)
  | t => (.equal, t)

/-- The number is one of those that are meant. -/
def Side.holds (side : Side) (n m : Nat) : Bool :=
  match side with
  | .equal => n == m
  | .above => decide (m < n)
  | .below => decide (n < m)

/-- A test of a number that is known of a file. -/
def counted (known : Files → Visit → Nat) : WordReader :=
  testOf true fun _ _ t =>
    let (side, ds) := sideOf t
    match count? ds with
    | some n => .ok fun fs v => side.holds (known fs v) n
    | none => .error (.invalid t)

/-- How deep a tree is walked. -/
def depthOf (word : String) (change : Settings → Nat → Settings) : WordReader :=
  valued fun _ s t =>
    match count? t with
    | some n => .ok (change s n, .always)
    | none =>
      .error (.said ("Expected a positive decimal integer argument to ".toList ++ word.toList ++
        ", but got ".toList ++ Quoting.cited t))

/-- The units of sizes. -/
def sizeUnits : List (Char × Nat) :=
  [('b', 512), ('c', 1), ('w', 2), ('k', 1024), ('M', 1048576), ('G', 1073741824)]

/-- A test of a size. -/
def sized : WordReader :=
  testOf true fun _ _ t =>
    match t.getLast? with
    | none => .error (.said "invalid null argument to -size".toList)
    | some c =>
      let unit? := if c.isDigit then some 512 else sizeUnits.lookup c
      let (side, number) := sideOf (if c.isDigit then t else t.dropLast)
      match unit?, count? number with
      | none, _ => .error (.said ("invalid -size type ".toList ++ '\x60' :: c :: ['\'']))
      | some _, none =>
        .error (.said ("Invalid argument ".toList ++ '\x60' :: t ++ "' to -size".toList))
      | some unit, some n =>
        .ok fun _ v => side.holds ((Files.sizeOf v.node + (unit - 1)) / unit) n

/-! ### Names -/

/-- A test of a text by a pattern. -/
def patterned (folds : Bool) (text : Visit → Option Text) : WordReader :=
  testOf false fun _ _ t =>
    let fold (t : Text) : Text := if folds then t.map Char.toLower else t
    let pattern := Script.Pattern.ofText (fold t)
    .ok fun _ v => (text v).any fun t => pattern.fits (fold t)

/-- What a link holds. -/
def targetOf (v : Visit) : Option Text :=
  match v.node with
  | .link target _ => some target
  | _ => none

/-- The ways of writing regular expressions by their names. -/
def dialects : List (String × Regex.Dialect) :=
  [("findutils-default", .path), ("ed", .search false), ("emacs", .path),
    ("gnu-awk", .fields), ("grep", .search false), ("posix-awk", .fields), ("awk", .fields),
    ("posix-basic", .search false), ("posix-egrep", .search true), ("egrep", .search true),
    ("posix-extended", { extended := true, strict := true, loose := true }),
    ("posix-minimal-basic", .search false), ("sed", .search false)]

/-- Another way of writing regular expressions. -/
def dialected : WordReader :=
  valued fun _ s t =>
    match dialects.find? fun e => e.1.toList == t with
    | some e => .ok ({ s with dialect := e.2 }, .always)
    | none =>
      let names := ", ".toList.intercalate (dialects.map fun e => Quoting.cited e.1.toList)
      .error (.said ("Unknown regular expression type ".toList ++ Quoting.cited t ++
        "; valid types are ".toList ++ names ++ ['.']))

/-- A test of the whole path by a regular expression. -/
def matching (folds : Bool) : WordReader :=
  testOf false fun _ s t =>
    match Regex.read s.dialect t with
    | .ok r =>
      let m := Matcher.ofRegex folds false false (.seq r (.anchor .textEnd))
      .ok fun _ v => (m.front? (Text.bytes v.path).toArray).isSome
    | .error e =>
      .error (.said ("failed to compile regular expression '" ++ t ++ "': " ++ e.message))

/-! ### Kinds, rights and owners -/

/-- The letters for kinds. -/
def kinds : Text := "bcdpflsD"

/-- The kinds that a list names. -/
def kindsOf (word : String) : Text → Except Refusal Text
  | [] => .error (.said ("Arguments to ".toList ++ word.toList ++
      " should contain at least one letter".toList))
  | c :: rest =>
    if !kinds.contains c then
      .error (.said ("Unknown argument to ".toList ++ word.toList ++ ": ".toList ++ [c]))
    else
      match rest with
      | [] => .ok [c]
      | [','] =>
        .error (.said ("Last file type in list argument to ".toList ++ word.toList ++
          " is missing, i.e., list is ending on: ','".toList))
      | ',' :: rest => (kindsOf word rest).map (c :: ·)
      | _ =>
        .error (.said ("Must separate multiple arguments to ".toList ++ word.toList ++
          " using: ','".toList))

/-- A test of the kind of a file, or of what it is if links are followed where they are not. -/
def ofKind (word : String) (other : Bool) : WordReader :=
  testOf other fun _ s t =>
    (kindsOf word t).map fun letters fs v =>
      let node := if !other then v.node
        else if s.follow = .always then ((nodeAt fs v.path).toOption.map (·.2)).getD v.node
        else (v.other fs).getD v.node
      letters.contains (kindOf node)

/-- The warning about rights of which there are none to be had. -/
def noRights (t : Text) : Text :=
  "warning: you have specified a mode pattern ".toList ++ t ++
    (" (which is equivalent to /000). The meaning of -perm /000 has now been changed to be " ++
      "consistent with -perm -000; that is, while it used to match no files, it now matches all " ++
      "files.").toList

/-- A test of the rights. -/
def withRights : WordReader :=
  valued fun _ s t =>
    let (sign, changes) : Char × Text := match t with
      | '-' :: t => ('-', t)
      | '/' :: t => ('/', t)
      | t => (' ', t)
    match Rights.ofText? changes with
    | none => .error (.said ("invalid mode ".toList ++ Quoting.cited t))
    | some changes =>
      let bits (isDir : Bool) : Nat := Rights.adjust isDir 0 changes 0
      let isVoid := sign = '/' ∧ bits false = 0 ∧ bits true = 0
      let sign := if isVoid then '-' else sign
      let warnings := s.warnings ++ if isVoid then [noRights t] else []
      let holds : Files → Visit → Bool := fun _ v =>
        let wanted := bits v.node.isDir
        let common := v.node.mode &&& wanted
        if sign = '-' then common == wanted
        else if sign = '/' then wanted == 0 || common != 0
        else v.node.mode == wanted
      .ok ({ s with warnings }, .test true holds)

/-- A test of the owner, or of the group. -/
def owned (word : String) (unknown : Text → Text) (number : String × String × String → Text) :
    WordReader :=
  testOf true fun _ _ t =>
    if t.isEmpty then
      .error (.said ("The argument to ".toList ++ word.toList ++ " should not be empty".toList))
    else
      match accounts.find? fun e => number e == t, count? t with
      | some e, _ => .ok fun _ _ => e.2.2 == "0"
      | none, some n => .ok fun _ _ => n == 0
      | none, none => .error (.said (unknown t))

/-! ### Times -/

/-- The moment that ages are counted from. -/
def origin (p : Process) (s : Settings) : Moment :=
  let now := p.files.now
  if s.fullDays then
    let zone := zoneOf p
    now - Moment.ofSeconds (Dates.Stamp.ofMoment zone now).second - now % 1000000
  else now - Moment.ofSeconds 86400

/-- A test of an age in units of so many seconds. -/
def aged (letter : Char) (unit : Nat) : WordReader :=
  testOf true fun p s t =>
    let (side, number) := sideOf t
    match Quantity.read? .double number with
    | some ⟨.finite negative num den, [], _⟩ =>
      let origin :=
        if unit = 86400 then
          origin p s + if side = .below then Moment.ofSeconds 86399 else 0
        else origin p s + Moment.ofSeconds 86400
      let length : Int := num * (unit * 1000000) / den
      let mark := origin - if negative then -length else length
      .ok fun fs v =>
        let m := momentOf fs v letter
        match side with
        | .above => decide (m < mark)
        | .below => decide (mark < m)
        | .equal => decide (mark < m ∧ m ≤ mark + Moment.ofSeconds unit)
    | _ => .error (.invalid t)

/-- The file that a word names. -/
def referred (p : Process) (s : Settings) (t : Text) : Except Refusal (Location × Node) :=
  match (if s.follow = .never then nodeAt p.files t else targetAt p.files t) with
  | .ok found => .ok found
  | .error e => .error (.said (Quoting.cited t ++ ": ".toList ++ e.reason))

/-- A test whether a time of a file is later than one of another file. -/
def newerThan (own other : Char) : WordReader :=
  testOf true fun p s t => do
    let (loc, node) ← referred p s t
    let mark := momentOf p.files ⟨t, t, 0, loc, node⟩ other
    return fun fs v => decide (mark < momentOf fs v own)

/-- A test whether a time of a file is later than one that is told. -/
def laterThan (word : Text) (own : Char) : WordReader := fun p s args =>
  match args with
  | [] => .error (.said ("The ".toList ++ Quoting.cited word ++ " test needs an argument".toList))
  | t :: rest =>
    match Dates.read? (zoneOf p) p.files.now t with
    | some mark =>
      .ok (s, .test true fun fs v => decide (mark < momentOf fs v own), rest)
    | none =>
      .error (.said ("I cannot figure out how to interpret ".toList ++ Quoting.cited t ++
        " as a date or time".toList))

/-- A test whether a file is the same as another. -/
def sameAs : WordReader :=
  testOf true fun p s t => do
    let (loc, node) ← referred p s t
    let number := p.files.serialNumber loc node
    return fun fs v => fs.serialNumber v.loc v.node == number

/-- The file holds nothing. -/
def isEmpty (fs : Files) (v : Visit) : Bool :=
  match v.node with
  | .dir _ => (fs.children v.loc).isEmpty
  | .file data _ => data.isEmpty
  | _ => false

/-- What the path leads to may be run or looked into. -/
def isOpen (fs : Files) (v : Visit) : Bool :=
  match v.other fs with
  | some node => node.isDir || node.isProgram
  | none => false

/-! ### Actions -/

/-- The sink of a path, and the files that are written to. -/
def sinkOf (p : Process) (s : Settings) (t : Text) : Except Refusal (Sink × Settings) :=
  if t = "/dev/stdout".toList then .ok (.output, s)
  else if t = "/dev/stderr".toList then .ok (.errors, s)
  else
    match p.files.writable t with
    | .ok _ => .ok (.file t, { s with opened := s.opened ++ [t] })
    | .error e => .error (.said (Quoting.cited t ++ ": ".toList ++ e.reason))

/-- Writing, where the word behind says where to. -/
def writingTo (text : Process → Files → Visit → Text) : WordReader :=
  valued fun p s t => do
    let (sink, s) ← sinkOf p s t
    return ({ s with acts := true }, .act (.write sink (text p)))

/-- Writing in a format. -/
def reporting (sink : Sink) : WordReader :=
  valued fun p s t =>
    match Report.read t.length t with
    | .error fault => .error (.said fault)
    | .ok r =>
      let telling : Expression := .act (.write sink fun fs v => tell (zoneOf p) fs v r.pieces)
      let known : Expression := .test true fun _ _ => true
      .ok ({ s with acts := true, warnings := s.warnings ++ r.warnings },
        if looksAt r.pieces then .join .and known telling else telling)

/-- Writing in a format, where the word behind says where to. -/
def reportingTo : WordReader := fun p s args =>
  match args with
  | [] => .error .missing
  | [t] => .error (.invalid t)
  | t :: rest => do
    let (sink, s) ← sinkOf p s t
    reporting sink p s rest

/-- The word has a place for paths. -/
def hasPlace (t : Text) : Bool := Text.hasPart t "\x7b\x7d"

/-- The words of a command, whether a `+` closes them, and the words after; `place` says that the
word in front has a place for paths. -/
def commandWords (asks : Bool) : Bool → List Text → Option (List Text × Bool × List Text)
  | _, [] => none
  | place, t :: ts =>
    if t = [';'] then some ([], false, ts)
    else if t = ['+'] ∧ place ∧ !asks then some ([], true, ts)
    else (commandWords asks (hasPlace t) ts).map fun (words, gathers, rest) =>
      (t :: words, gathers, rest)

/-- Starting a program. -/
def starting (word : String) (inFolder asks : Bool) : WordReader := fun _ s args =>
  match commandWords asks false args with
  | none => .error .missing
  | some ([], _, _) => .error (match args with
      | t :: _ => .invalid t
      | [] => .missing)
  | some (words, gathers, rest) =>
    let places := words.filter hasPlace
    let last := (places.getLast?).getD []
    if gathers ∧ 1 < places.length then
      .error (.said ("Only one instance of \x7b\x7d is supported with ".toList ++ word.toList ++
        " ... +".toList))
    else if gathers ∧ last != "\x7b\x7d".toList then
      .error (.said ("In '".toList ++ word.toList ++
        " ... \x7b\x7d +' the '\x7b\x7d' must appear by itself, but you specified '".toList ++
        last ++ ['\'']))
    else
      let words := if gathers then words.dropLast else words
      .ok ({ s with acts := true, commands := s.commands + 1, asks := s.asks || asks },
        .act (.run ⟨words, inFolder, asks, gathers, s.commands⟩), rest)

/-! ### All words -/

/-- The words that stand alone. -/
def loneWords : List (String × WordReader) :=
  [("-true", lone false fun _ _ => true), ("-false", lone false fun _ _ => false),
    ("-empty", lone true isEmpty), ("-nouser", lone true fun _ _ => false),
    ("-nogroup", lone true fun _ _ => false),
    ("-readable", lone false fun fs v => (v.other fs).isSome),
    ("-writable", lone false fun fs v => (v.other fs).isSome), ("-executable", lone false isOpen),
    ("-depth", setting fun s => { s with deep := true, deepAsked := true }),
    ("-d", setting fun s => { s with deep := true, deepAsked := true }),
    ("-daystart", setting fun s => { s with fullDays := true }),
    ("-follow", setting fun s => { s with follow := .always }), ("-xdev", setting fun s => s),
    ("-mount", setting fun s => s), ("-noleaf", setting fun s => s),
    ("-warn", setting fun s => s), ("-nowarn", setting fun s => s),
    ("-ignore_readdir_race", setting fun s => s), ("-noignore_readdir_race", setting fun s => s),
    ("-print", acting (.write .output fun _ v => v.path ++ ['\n'])),
    ("-print0", acting (.write .output fun _ v => v.path ++ ['\x00'])),
    ("-ls", fun p s rest => (acting (.write .output (details (zoneOf p)))) p s rest),
    ("-delete", fun _ s rest =>
      .ok ({ s with acts := true, deep := true, deletes := true }, .act .delete, rest)),
    ("-prune", fun _ s rest => .ok ({ s with prunes := true }, .act .prune, rest)),
    ("-quit", fun _ s rest => .ok (s, .act .quit, rest))]

/-- The words that have one behind them. -/
def valuedWords : List (String × WordReader) :=
  [("-name", patterned false (some ·.name)), ("-iname", patterned true (some ·.name)),
    ("-path", patterned false (some ·.path)), ("-ipath", patterned true (some ·.path)),
    ("-wholename", patterned false (some ·.path)), ("-iwholename", patterned true (some ·.path)),
    ("-lname", patterned false targetOf), ("-ilname", patterned true targetOf),
    ("-regex", matching false), ("-iregex", matching true), ("-regextype", dialected),
    ("-type", ofKind "-type" false), ("-xtype", ofKind "-xtype" true), ("-size", sized),
    ("-perm", withRights), ("-links", counted fun fs v => fs.linkCount v.loc v.node),
    ("-inum", counted fun fs v => fs.serialNumber v.loc v.node),
    ("-uid", counted fun _ _ => 0), ("-gid", counted fun _ _ => 0), ("-used", counted fun _ _ => 0),
    ("-user", owned "-user" (fun t => Quoting.cited t ++ " is not the name of a known user".toList)
      fun e => e.1.toList),
    ("-group", owned "-group"
      (fun t => Quoting.cited t ++ " is not the name of an existing group".toList)
      fun e => e.2.1.toList),
    ("-fstype", testOf true fun _ _ t => .ok fun _ _ => t == "ext4".toList),
    ("-context", testOf true fun _ _ _ => .ok fun _ _ => false), ("-samefile", sameAs),
    ("-amin", aged 'A' 60), ("-cmin", aged 'C' 60), ("-mmin", aged 'T' 60),
    ("-atime", aged 'A' 86400), ("-ctime", aged 'C' 86400), ("-mtime", aged 'T' 86400),
    ("-newer", newerThan 'T' 'T'), ("-anewer", newerThan 'A' 'T'), ("-cnewer", newerThan 'C' 'T'),
    ("-maxdepth", depthOf "-maxdepth" fun s n => { s with most := some n }),
    ("-mindepth", depthOf "-mindepth" fun s n => { s with least := n }),
    ("-fprint", writingTo fun _ _ v => v.path ++ ['\n']),
    ("-fprint0", writingTo fun _ _ v => v.path ++ ['\x00']),
    ("-fls", writingTo fun p => details (zoneOf p)), ("-printf", reporting .output),
    ("-fprintf", reportingTo), ("-exec", starting "-exec" false false),
    ("-execdir", starting "-execdir" true false), ("-ok", starting "-ok" false true),
    ("-okdir", starting "-okdir" true true)]

/-- The letter that times are known by, behind the one that a word has for it. -/
def timeLetter? (c : Char) : Option Char :=
  [('a', 'A'), ('B', 'B'), ('c', 'C'), ('m', 'T')].lookup c

/-- How a word is read, if it is known. -/
def word? (t : Text) : Option WordReader :=
  match (loneWords ++ valuedWords).find? fun e => e.1.toList == t with
  | some e => some e.2
  | none =>
    if "-newer".toList.isPrefixOf t then
      match t.drop 6 with
      | [x, 't'] => (timeLetter? x).map (laterThan t)
      | [x, y] =>
        match timeLetter? x, timeLetter? y with
        | some x, some y => some (newerThan x y)
        | _, _ => none
      | _ => none
    else none

/-! ### Items -/

/-- What an expression is written with.  The signs that the user has not written are not `own`. -/
inductive Item where
  | leaf (e : Expression)
  | not (word : Text)
  | joint (word : Text) (j : Joint)
  | opening
  | closing (own : Bool)

/-- The signs by their names. -/
def signs : List (String × Item) :=
  [("!", .not ['!']), ("-not", .not "-not".toList), ("(", .opening), (")", .closing true),
    (",", .joint [','] .after), ("-a", .joint "-a".toList .and),
    ("-and", .joint "-and".toList .and), ("-o", .joint "-o".toList .or),
    ("-or", .joint "-or".toList .or)]

/-- The item ends something that can be held against a file. -/
def Item.ends : Item → Bool
  | .leaf _ => true
  | .closing _ => true
  | _ => false

/-- The item begins something that can be held against a file. -/
def Item.begins : Item → Bool
  | .leaf _ => true
  | .not _ => true
  | .opening => true
  | _ => false

/-- An item behind others, with the sign that is understood between them. -/
def joined (items : List Item) (item : Item) : List Item :=
  if (items.getLast?).any Item.ends && item.begins then
    items ++ [.joint "-a".toList .and, item]
  else items ++ [item]

/-- A word belongs to an expression and is no path; fewer words can begin one. -/
def isOfExpression (begins : Bool) : Text → Bool
  | '-' :: _ :: _ => true
  | [')'] => !begins
  | [','] => !begins
  | ['('] => true
  | ['!'] => true
  | _ => false

/-- The items that words are; at most `n`.  `last` is the word of an expression that was read
last. -/
def itemsOf (p : Process) : Nat → Option Text → Settings → List Item → List Text →
    Except (List Text) (Settings × List Item)
  | 0, _, s, items, _ => .ok (s, items)
  | _, _, s, items, [] => .ok (s, items)
  | n + 1, last, s, items, t :: ts =>
    if !isOfExpression false t then
      let advice : List Text := match last, nodeAt p.files t with
        | some word, .ok _ =>
          ["possible unquoted pattern after predicate \x60".toList ++ word ++ "'?".toList]
        | _, _ => []
      .error (("paths must precede expression: \x60" ++ t ++ ['\'']) :: advice)
    else
      match signs.find? fun e => e.1.toList == t, word? t with
      | some e, _ => itemsOf p n last s (joined items e.2) ts
      | none, none =>
        if "-newer".toList.isPrefixOf t ∧ t.length = 8 then
          .error ["invalid predicate \x60".toList ++ t ++ ['\'']]
        else .error ["unknown predicate \x60".toList ++ t ++ ['\'']]
      | none, some read =>
        match read p s ts with
        | .error .missing => .error ["missing argument to \x60".toList ++ t ++ ['\'']]
        | .error (.invalid arg) =>
          .error ["invalid argument \x60".toList ++ arg ++ "' to \x60".toList ++ t ++ ['\'']]
        | .error (.said fault) => .error [fault]
        | .ok (s, e, rest) => itemsOf p n (some t) s (joined items (.leaf e)) rest

/-! ### Expressions -/

/-- The complaint about a parenthesis that closes where something should begin. -/
def closingFault (own : Bool) : Option Item → Text
  | some (.not word) =>
    if own then "expected an expression between '" ++ word ++ "' and ')'"
    else "expected an expression after '" ++ word ++ ['\'']
  | some (.joint word _) =>
    if own then "expected an expression between '" ++ word ++ "' and ')'"
    else "expected an expression after '" ++ word ++ ['\'']
  | _ => "invalid expression; you have too many ')'"

mutual

/-- The expression that items begin with, of which the joints are stronger than `strength`; `last`
is the item in front. -/
def expression : Nat → Nat → Option Item → List Item → Except Text (Expression × List Item)
  | 0, _, _, _ => .error "invalid expression".toList
  | n + 1, strength, last, items =>
    match items with
    | [] => .error "invalid expression".toList
    | .joint word _ :: _ =>
      .error ("invalid expression; you have used a binary operator '" ++ word ++
        "' with nothing before it.")
    | .closing own :: _ => .error (closingFault own last)
    | .leaf e :: rest => continued n strength e rest
    | .not word :: rest => do
      let (e, rest) ← expression n 4 (some (.not word)) rest
      continued n strength (.not e) rest
    | .opening :: rest =>
      match rest with
      | [] | .closing false :: _ =>
        .error ("invalid expression; expected to find a ')' but didn't see one. " ++
          "Perhaps you need an extra predicate after '('").toList
      | .closing true :: _ =>
        .error "invalid expression; empty parentheses are not allowed.".toList
      | _ => do
        let (e, rest) ← expression n 0 none rest
        match rest with
        | .closing true :: rest => continued n strength e rest
        | _ =>
          throw
            ("invalid expression; I was expecting to find a ')' somewhere " ++
              "but did not see one.").toList

/-- The expression that goes on from another with joints that are stronger than `strength`. -/
def continued : Nat → Nat → Expression → List Item → Except Text (Expression × List Item)
  | 0, _, e, items => .ok (e, items)
  | n + 1, strength, e, items =>
    match items with
    | .joint word j :: rest =>
      if strength < j.strength then do
        let (b, rest) ← expression n j.strength (some (.joint word j)) rest
        continued n strength (.join j e b) rest
      else return (e, items)
    | _ => return (e, items)

end

/-- The writing of a path. -/
def printing : Expression := .act (.write .output fun _ v => v.path ++ ['\n'])

/-- The expression that items are.  In parentheses that the user has not written nothing is left
out: they close where the items end. -/
def whole (acts : Bool) (items : List Item) : Except Text Expression := do
  if items.isEmpty then return printing
  let items := if acts then items else items ++ [.closing false]
  let (e, rest) ← expression (4 * items.length + 4) 0 none items
  match rest with
  | [] => return e
  | [.closing false] => return .join .and e printing
  | _ => throw "you have too many ')'".toList

/-- What words ask for, what they settle besides, and warnings; or complaints. -/
def planOf (p : Process) (follow : Follow) (words : List Text) :
    Except (List Text) (Plan × Settings) := do
  let (s, items) ← itemsOf p words.length none { follow } [] words
  if s.deletes && s.prunes && !s.deepAsked then
    throw [("The -delete action automatically turns on -depth, but -prune does nothing when " ++
      "-depth is in effect.  If you want to carry on anyway, just explicitly use the -depth " ++
      "option.").toList]
  match whole s.acts items with
  | .error t => throw (s.warnings ++ [t])
  | .ok e => return (⟨s.follow, s.deep, s.least, s.most, e⟩, s)

end AliasShell.Tools.Finding
