/-
Tools that change what is known of files besides what they hold: times, rights, owners and lengths.
-/
import AliasShell.Machine.Files.Facts
import AliasShell.Machine.Number.Quantity
import AliasShell.Machine.Rights
import AliasShell.Machine.Tools.Clock
import AliasShell.Machine.Tools.Identity
import AliasShell.Machine.Tools.Progress

namespace AliasShell.Tools

namespace Attributes

/-! ### Times -/

/-- The words for the times of a file; of these only the last one is kept. -/
def timeWords : List (String × Bool) :=
  [("atime", false), ("access", false), ("use", false), ("mtime", true), ("modify", true)]

/-- The time that files are to get. -/
def timeOf (p : Process) (a : Asked) : Except Aftermath Moment := do
  let zone := zoneOf p
  let pairs ← match a.value? 't' with
    | none => pure none
    | some t =>
      match Dates.ofPairs? zone p.files.now false t with
      | some m => pure (some m)
      | none => failWith p 1 ("invalid date format ".toList ++ Quoting.cited t)
  if pairs.isSome && (a.has 'r' || a.has 'd') then
    failMisused p 1 "cannot specify times from more than one source"
  let base ← match a.value? 'r' with
    | none => pure p.files.now
    | some name =>
      match (if a.has 'h' then nodeAt p.files name else targetAt p.files name) with
      | .ok (_, node) => pure node.modified
      | .error e =>
        failWith p 1 ("failed to get attributes of ".toList ++ Quoting.always name ++
          ": ".toList ++ e.reason)
  match a.value? 'd' with
  | none => return pairs.getD base
  | some t =>
    match Dates.read? zone base t with
    | some m => return m
    | none => failWith p 1 ("invalid date format ".toList ++ Quoting.cited t)

/-- Dates one file, which is made if it is not there. -/
def touchOne (time : Moment) (changes : Bool) (p : Process) (a : Asked) (w : Progress)
    (path : Text) : Progress :=
  let dated (files : Files) (loc : Location) : Progress :=
    { w with files := if changes then files.changeAt loc (Files.datedTo time) else files }
  let unsettled (e : SysError) : Progress :=
    if a.has 'c' ∧ e = .notFound then w
    else w.complain p ("setting times of " ++ Quoting.always path ++ ": " ++ e.reason)
  if path = ['-'] then w
  else
    match (if a.has 'h' then nodeAt w.files path else targetAt w.files path) with
    | .ok (loc, _) => dated w.files loc
    | .error e =>
      if a.has 'c' || a.has 'h' then unsettled e
      else if path.getLast? = some '/' then unsettled e
      else
        match w.files.modify path fun b => b with
        | .error e => w.complain p ("cannot touch " ++ Quoting.always path ++ ": " ++ e.reason)
        | .ok files =>
          match targetAt files path with
          | .ok (loc, _) => dated files loc
          | .error _ => w

end Attributes

/-- Dates files, and makes those that are not there. -/
def touch : Tool :=
  taking
    { plain := "acfhm", valued := "drtω", usage := "[OPTION]... FILE..."
      long := [("time", 'ω'), ("no-create", 'c'), ("date", 'd'), ("reference", 'r'),
        ("no-dereference", 'h')] }
    1 fun p a => settle do
      let word ← choose? p a 'ω' "time" Attributes.timeWords
      let time ← Attributes.timeOf p a
      let all := !a.has 'a' && !a.has 'm' && word.isNone
      let changes := all || a.has 'm' || word == some true
      return overOperands "file operand" (Attributes.touchOne time changes) p a

/-! ### Rights -/

namespace Attributes

/-- Rights in eighths, and as letters. -/
def modeText (mode : Nat) : Text := Rights.digits 4 mode ++ " (" ++ Rights.text mode ++ ")"

/-- How rights are to be changed. -/
inductive Aim where
  | changes (cs : List Rights.Change)
  | like (mode : Nat)
  deriving Repr, DecidableEq

/-- The rights of a node after all. -/
def Aim.apply (aim : Aim) (isDir : Bool) (mask mode : Nat) : Nat :=
  match aim with
  | .changes cs => Rights.adjust isDir mask cs mode
  | .like mode => mode

/-- Changes the rights of one node.  Where the change came as an option, it should not matter what
is taken away from new files. -/
def setMode (aim : Aim) (isOption : Bool) (p : Process) (a : Asked) (w : Progress) (path : Text)
    (loc : Location) (node : Node) : Progress :=
  let old := node.mode
  let new := aim.apply node.isDir p.files.mask old
  let naive := aim.apply node.isDir 0 old
  let w := { w with files := w.files.changeAt loc (Files.withMode new) }
  let said := "mode of " ++ Quoting.always path ++
    (if old = new then " retained as ".toList ++ modeText new
      else " changed from ".toList ++ modeText old ++ " to ".toList ++ modeText new)
  let w := w.tell (a.has 'v' || (a.has 'c' && old != new)) said
  if isOption && new != naive then
    w.complain p (Quoting.ifNeeded path ++ ": new permissions are " ++ Rights.text new ++
      ", not " ++ Rights.text naive)
  else w

/-- Changes the rights of what stands at and below a place; at most `n` levels. -/
def setModes (aim : Aim) (isOption : Bool) (p : Process) (a : Asked) :
    Nat → Progress → Text → Location → Node → Progress
  | 0, w, _, _, _ => w
  | n + 1, w, path, loc, node =>
    match node with
    | .link .. =>
      w.tell (a.has 'v')
        ("neither symbolic link " ++ Quoting.always path ++ " nor referent has been changed")
    | node =>
      let w := setMode aim isOption p a w path loc node
      if node.isDir && a.has 'R' then
        (w.files.children loc).foldl
          (fun w (name, node) =>
            setModes aim isOption p a n w (Path.join path name) (loc ++ [name]) node) w
      else w

/-- Changes the rights of what a path leads to. -/
def chmodOne (aim : Aim) (isOption : Bool) (p : Process) (a : Asked) (w : Progress) (path : Text) :
    Progress :=
  let fault (t : Text) : Progress :=
    if a.has 'f' then { w with failed := true } else w.complain p t
  match targetAt w.files path with
  | .ok (loc, node) =>
    setModes aim isOption p a (w.files.nodes.length + 1) w path loc node
  | .error e =>
    if (place w.files path).isOk then
      fault ("cannot operate on dangling symlink " ++ Quoting.always path)
    else
      (fault ("cannot access " ++ Quoting.always path ++ ": " ++ e.reason)).tell (a.has 'v')
        (Quoting.always path ++ " could not be accessed")

/-- An argument that changes rights and looks like an option. -/
def isChange : Text → Bool
  | '-' :: c :: _ => "rwxXstugoa,+=01234567".toList.contains c
  | _ => false

/-- The options of `chmod`. -/
def modeLetters : Letters :=
  { plain := "Rcfvπ", valued := "ω", loose := "λ"
    usage := "[OPTION]... MODE[,MODE]... FILE..."
    long := [("changes", 'c'), ("recursive", 'R'), ("no-preserve-root", 'π'),
      ("preserve-root", 'λ'), ("quiet", 'f'), ("silent", 'f'), ("verbose", 'v'),
      ("reference", 'ω')] }

/-- Changes the rights of files. -/
def changeModes (p : Process) (shielded : List Text) (options : List Text) (a : Asked) :
    Except Aftermath Aftermath := do
  let operands := a.operands ++ shielded
  if a.has 'ω' && !options.isEmpty then
    failMisused p 1 "cannot combine mode and --reference options"
  let (mode, names) : Text × List Text :=
    if a.has 'ω' then ([], operands)
    else if options.isEmpty then (operands.headD [], operands.drop 1)
    else ([','].intercalate options, operands)
  if names.isEmpty then
    if options.isEmpty && !a.has 'ω' && !operands.isEmpty then
      failMisused p 1 ("missing operand after ".toList ++ Quoting.cited mode)
    failMisused p 1 "missing operand"
  let aim ← match a.value? 'ω' with
    | some name =>
      match targetAt p.files name with
      | .ok (_, node) => pure (Aim.like node.mode)
      | .error e =>
        failWith p 1 ("failed to get attributes of ".toList ++ Quoting.always name ++
          ": ".toList ++ e.reason)
    | none =>
      match Rights.ofText? mode with
      | some cs => pure (Aim.changes cs)
      | none => failMisused p 1 ("invalid mode: ".toList ++ Quoting.cited mode)
  return (names.foldl (chmodOne aim (!options.isEmpty) p a) (.start p)).done p

end Attributes

/-- Changes rights. -/
def chmod : Tool := fun p =>
  let front := p.args.takeWhile (· != "--".toList)
  let shielded := p.args.drop (front.length + 1)
  let options := front.filter Attributes.isChange
  let others := front.filter fun t => !Attributes.isChange t
  match readAsked Attributes.modeLetters others.length others with
  | .error t => misused p 1 t
  | .ok a =>
    (aboutSelf? p Attributes.modeLetters a).getD
      (settle (Attributes.changeModes p shielded options a))

/-! ### Owners -/

/-- Gives files to owners and groups that are known; nothing shows who owns a file. -/
def giving (what : String) : Tool :=
  taking
    { plain := "cfhvRHLPδπ", valued := "ω", usage := "[OPTION]... [OWNER][:[GROUP]] FILE..."
      long := [("changes", 'c'), ("dereference", 'δ'), ("no-dereference", 'h'),
        ("no-preserve-root", 'π'), ("quiet", 'f'), ("silent", 'f'), ("recursive", 'R'),
        ("reference", 'ω'), ("verbose", 'v')] }
    1 fun p a =>
      let isKnown (t : Text) : Bool :=
        t.isEmpty || t.all Char.isDigit || (account? t).isSome ||
          accounts.any fun e => e.2.1.toList == t
      match a.operands with
      | [] => misused p 1 "missing operand"
      | [owner] => misused p 1 ("missing operand after " ++ Quoting.cited owner)
      | owner :: names =>
        let (user, group) := if what = "group" then ([], owner)
          else (Text.cutFirst (· == ':') owner).getD (owner, [])
        if !isKnown user then p.refuse 1 ("invalid user: " ++ Quoting.cited owner)
        else if !isKnown group then p.refuse 1 ("invalid group: " ++ Quoting.cited owner)
        else
          let step (w : Progress) (path : Text) : Progress :=
            match targetAt w.files path with
            | .ok _ =>
              let (start, shown) := if what = "group" then ("group of ", group)
                else ("ownership of ", owner)
              w.tell (a.has 'v') (start.toList ++ Quoting.always path ++ " retained as " ++ shown)
            | .error e =>
              if a.has 'f' then { w with failed := true }
              else w.complain p ("cannot access " ++ Quoting.always path ++ ": " ++ e.reason)
          (names.foldl step (.start p)).done p

/-- Gives files to other owners. -/
def chown : Tool := giving "user"

/-- Gives files to other groups. -/
def chgrp : Tool := giving "group"

/-! ### Lengths -/

namespace Attributes

/-- How a length comes about. -/
inductive Resize where
  | exactly
  | add
  | take
  | atMost
  | atLeast
  | downTo
  | upTo
  deriving Repr, DecidableEq

/-- A length as an argument gives it. -/
def resize? (t : Text) : Option (Resize × Nat) :=
  let t := t.dropWhile Quantity.isBlank
  let (how, t) : Resize × Text := match t with
    | '<' :: t => (.atMost, t)
    | '>' :: t => (.atLeast, t)
    | '/' :: t => (.downTo, t)
    | '%' :: t => (.upTo, t)
    | '+' :: t => (.add, t)
    | '-' :: t => (.take, t)
    | t => (.exactly, t)
  (size? t).map fun n => (how, n)

/-- The length that comes about. -/
def Resize.apply (how : Resize) (n old : Nat) : Nat :=
  match how with
  | .exactly => n
  | .add => old + n
  | .take => old - n
  | .atMost => min n old
  | .atLeast => max n old
  | .downTo => old / n * n
  | .upTo => (old + (n - 1)) / n * n

/-- Cuts or fills one file. -/
def truncateOne (how : Resize) (n : Nat) (like : Option Nat) (p : Process) (a : Asked)
    (w : Progress) (path : Text) : Progress :=
  let missing := !(w.files.locateWhole path).isOk
  if missing && a.has 'c' then w
  else
    let fit (b : Bytes) : Bytes :=
      let size := how.apply n (like.getD b.length)
      b.take size ++ List.replicate (size - b.length) 0
    w.change p (w.files.modify path fit) [] false fun e =>
      "cannot open " ++ Quoting.always path ++ " for writing: " ++ e.reason

end Attributes

/-- Cuts files, or fills them with zeros. -/
def truncate : Tool :=
  taking
    { plain := "co", valued := "rs", usage := "OPTION... FILE..."
      long := [("no-create", 'c'), ("io-blocks", 'o'), ("reference", 'r'), ("size", 's')] }
    1 fun p a => settle do
      let (how, n) ← match a.value? 's' with
        | none => pure (Attributes.Resize.exactly, 0)
        | some t =>
          match Attributes.resize? t with
          | none => failWith p 1 ("Invalid number: ".toList ++ Quoting.cited t)
          | some (how, n) =>
            if n = 0 ∧ (how = .downTo ∨ how = .upTo) then failWith p 1 "division by zero"
            else pure (how, n)
      if !a.has 's' && !a.has 'r' then
        failMisused p 1 "you must specify either '--size' or '--reference'"
      if a.has 's' && a.has 'r' && how == .exactly then
        failMisused p 1 "you must specify a relative '--size' with '--reference'"
      if a.has 'o' && !a.has 's' then
        failMisused p 1 "'--io-blocks' was specified but '--size' was not"
      if a.operands.isEmpty then failMisused p 1 "missing file operand"
      let like ← match a.value? 'r' with
        | none => pure none
        | some name =>
          match targetAt p.files name with
          | .ok (_, node) => pure (some (Files.sizeOf node))
          | .error e =>
            failWith p 1 ("cannot stat ".toList ++ Quoting.always name ++ ": ".toList ++ e.reason)
      let (how, n) := match like, a.has 's' with
        | some size, false => (Attributes.Resize.exactly, size)
        | _, _ => (how, n)
      let n := if a.has 'o' then n * 4096 else n
      return overOperands "file operand" (Attributes.truncateOne how n like) p a

end AliasShell.Tools
