/-
Where copies, moves and links go, and what becomes of what stood there.

The last operand is where a single source goes, and the directory that several go into; options name
the directory or say that the last operand is none.  What stood in the place of something new can be
kept under another name.
-/
import AliasShell.Machine.Files.Facts
import AliasShell.Machine.Tools.Plain
import AliasShell.Machine.Tools.Progress

namespace AliasShell.Tools

namespace Targets

/-! ### Sources and destinations -/

/-- A directory can be opened at the path. -/
def directory? (fs : Files) (path : Text) : Except SysError Unit :=
  match targetAt fs path with
  | .ok (_, node) => if node.isDir then .ok () else .error .notDirectory
  | .error e => .error e

/-- The path of something in a directory. -/
def inside (dir name : Text) : Text :=
  match lastPart name with
  | ['.', '.'] => Path.join dir ['.']
  | ['/'] => dir
  | base => Path.join dir base

/-- What operands and options ask for. -/
structure Wanted where
  sources : List Text
  /-- the directory that they go into, or where the only one goes -/
  target : Text
  into : Bool
  /-- nothing stands at the target -/
  isNew : Bool
  deriving Repr, DecidableEq

/-- The pairs of sources and destinations. -/
def Wanted.pairs (w : Wanted) : List (Text × Text) :=
  w.sources.map fun name => (name, if w.into then inside w.target name else w.target)

/-- What operands and options ask for; one operand may stand for itself in the current directory. -/
def wanted (p : Process) (a : Asked) (alone : Bool) : Except Aftermath Wanted := do
  let names := a.operands
  let fs := p.files
  let into? := a.value? 't'
  if 1 < (a.values 't').length then
    failWith p 1 "multiple target directories specified"
  let refuseTarget {α : Type} (what : String) (path : Text) (e : SysError) : Except Aftermath α :=
    failWith p 1 (what.toList ++ Quoting.always path ++ ": ".toList ++ e.reason)
  let missing {α : Type} : Except Aftermath α :=
    match names with
    | [] => failMisused p 1 "missing file operand"
    | name :: _ =>
      failMisused p 1 ("missing destination file operand after ".toList ++ Quoting.always name)
  match into?, a.has 'T' with
  | some dir, exact =>
    if names.isEmpty then missing
    else if exact then
      failWith p 1
        "cannot combine --target-directory (-t) and --no-target-directory (-T)"
    else
      match directory? fs dir with
      | .ok () => return ⟨names, dir, true, false⟩
      | .error e => refuseTarget "target directory " dir e
  | none, true =>
    match names with
    | [name, target] => return ⟨[name], target, false, !(targetAt fs target).isOk⟩
    | _ :: _ :: t :: _ => failMisused p 1 ("extra operand ".toList ++ Quoting.cited t)
    | _ => missing
  | none, false =>
    match names.reverse with
    | [] => missing
    | [name] => if alone then return ⟨[name], ['.'], true, false⟩ else missing
    | target :: sources =>
      match directory? fs target with
      | .ok () => return ⟨sources.reverse, target, true, false⟩
      | .error e =>
        if 1 < sources.length then refuseTarget "target " target e
        else return ⟨sources, target, false, e == .notFound⟩

/-! ### Backups -/

/-- How what stood there is kept. -/
inductive Backup where
  | none
  | simple
  /-- numbered if there is a numbered one already -/
  | existing
  | numbered
  deriving Repr, DecidableEq

/-- The words for how it is kept. -/
def backupWords : List (String × Backup) :=
  [("none", .none), ("off", .none), ("simple", .simple), ("never", .simple),
    ("existing", .existing), ("nil", .existing), ("numbered", .numbered), ("t", .numbered)]

/-- A word for how backups are made, which comes from the environment or an option. -/
def backupOf (p : Process) (context : String) (word : Text) : Except Aftermath Backup :=
  match backupWords.find? fun e => e.1.toList == word with
  | some e => .ok e.2
  | none =>
    match backupWords.filter fun e => word.isPrefixOf e.1.toList with
    | e :: es =>
      if es.all fun x => x.2 == e.2 then .ok e.2
      else
        failMisused p 1
          ("ambiguous argument ".toList ++ Quoting.cited word ++ " for ".toList ++
            Quoting.cited context.toList)
    | [] =>
      .error (p.leave 1
        [p.complaint ("invalid argument " ++ Quoting.cited word ++ " for " ++
          Quoting.cited context.toList),
          (.errors, Text.bytes ("Valid arguments are:\n".toList ++
            (wordLines (backupWords.map fun e => (e.1.toList, e.2))).flatMap fun line =>
              "  - ".toList ++ line ++ ['\n'])), hint p])

/-- How backups are made, if at all: `b` and the letter of the long option ask for them, a suffix
alone does so too. -/
def backup (p : Process) (a : Asked) (long : Char) : Except Aftermath Backup := do
  if !(a.has 'b' || a.has long || a.has 'S') then return .none
  match (a.value? long).filter fun t => !t.isEmpty with
  | some word => backupOf p "backup type" word
  | none =>
    match (p.var? "VERSION_CONTROL").filter fun t => !t.isEmpty with
    | some word => backupOf p "$VERSION_CONTROL" word
    | none => return .existing

/-- What is put behind the names of backups that have no number. -/
def suffix (p : Process) (a : Asked) : Text :=
  let usable (t : Text) : Bool := !t.isEmpty && !t.contains '/'
  (((a.value? 'S').filter usable).orElse fun _ =>
    (p.var? "SIMPLE_BACKUP_SUFFIX").filter usable).getD ['~']

/-- The greatest number of a backup of a file, or 0. -/
def lastNumber (fs : Files) (loc : Location) : Nat :=
  let front := loc.getLast?.getD [] ++ ".~".toList
  let numbers := (fs.children loc.dropLast).filterMap fun e =>
    if front.isPrefixOf e.1 && e.1.getLast? == some '~' then
      count? ((e.1.drop front.length).dropLast)
    else Option.none
  numbers.foldl max 0

/-- What is put behind the name of the file for its backup. -/
def backupEnding (fs : Files) (kind : Backup) (suffix : Text) (loc : Location) : Text :=
  let last := lastNumber fs loc
  let numbered := ".~".toList ++ Integer.digits (last + 1) ++ ['~']
  match kind with
  | .numbered => numbered
  | .existing => if last = 0 then suffix else numbered
  | _ => suffix

/-- The location with something behind its last name. -/
def withEnding (loc : Location) (ending : Text) : Location :=
  loc.dropLast ++ [loc.getLast?.getD [] ++ ending]

/-- What is said behind a pair of names where a backup was made. -/
def backupRemark (path : Text) (ending : Option Text) : Text :=
  match ending with
  | some t => " (backup: " ++ Quoting.always (path ++ t) ++ [')']
  | none => []

/-! ### Identity -/

/-- Two locations are the same file. -/
def sameFile (fs : Files) (x y : Location) : Bool :=
  x == y ||
    match (fs.node? x).map Files.sharedNumber, (fs.node? y).map Files.sharedNumber with
    | some m, some n => m == n && m != 0
    | _, _ => false

/-- The file of a name, which several names may share from now on. -/
def withShared (fs : Files) (loc : Location) : Files × Node :=
  match fs.node? loc with
  | some (.file data t) =>
    if t.number = 0 then
      let node := Node.file data { t with number := fs.serialNumber loc (.file data t) }
      (fs.put loc node, node)
    else (fs, .file data t)
  | some node => (fs, node)
  | none => (fs, .device .null)

/-- A link stands at the location. -/
def isLink (fs : Files) (loc : Location) : Bool :=
  match fs.node? loc with
  | some (.link ..) => true
  | _ => false

end Targets

end AliasShell.Tools
