/-
Completing a verb: builtins, aliases, and the programs in the directories of `PATH`.

The programs are looked for only when `PATH` has changed or none were found the last time.
-/
import AliasShell.Files.Operations
import AliasShell.Text.Order

namespace AliasShell

/-- Something to choose: how it is shown, and what replaces the word. -/
structure Candidate where
  display : Text
  replacement : Text
  deriving Repr, DecidableEq

/-! ### Where programs are looked for -/

/-- What a directory tells of an entry besides its name. -/
inductive EntryKind where
  | file
  | link
  /-- a directory, a device, or something of which nothing is told -/
  | other
  deriving Repr, DecidableEq

/-- The kind of a node. -/
def Node.kind : Node → EntryKind
  | .file _ _ => .file
  | .link _ _ => .link
  | .dir _ | .device _ => .other

/-- What looking for programs asks of the system: the entries of a directory, in the order in which
it delivers them.  Their names need not be text. -/
abbrev Folders := Text → Except SysError (List (Bytes × EntryKind))

/-- The directories of a file system. -/
def Folders.ofFiles (fs : Files) : Folders := fun dir =>
  (fs.readDir dir).map fun entries => entries.map fun e => (e.1.encode, e.2.kind)

/-! ### Verbs -/

/-- The verbs that are known. -/
structure VerbCompleter where
  builtins : TextSet
  aliases : TextSet
  programs : TextSet
  /-- The `PATH` that the programs were looked for in. -/
  scanned : Option Text
  deriving Repr, DecidableEq

namespace VerbCompleter

/-- No verbs. -/
def empty : VerbCompleter := ⟨.empty, .empty, .empty, none⟩

/-- Other builtins. -/
def setBuiltins (v : VerbCompleter) (names : List Text) : VerbCompleter :=
  { v with builtins := .ofList names }

/-- Other aliases. -/
def setAliases (v : VerbCompleter) (names : List Text) : VerbCompleter :=
  { v with aliases := .ofList names }

/-- The name of an entry if it is text and the entry a file or a link. -/
def program? (e : Bytes × EntryKind) : Option Text :=
  match e.2 with
  | .file | .link => Bytes.decode? e.1
  | .other => none

/-- The names of files and links in a directory; none if it cannot be read. -/
def programsIn (d : Folders) (dir : Text) : List Text :=
  match d dir with
  | .ok entries => entries.filterMap program?
  | .error _ => []

/-- The programs in the directories of a `PATH`. -/
def scan (d : Folders) : Option Text → TextSet
  | none => .empty
  | some path => .ofList ((path.cut (· == ':')).flatMap (programsIn d))

/-- The completer with the programs of `path`, as the directories are. -/
def refreshOn (v : VerbCompleter) (d : Folders) (path : Option Text) : VerbCompleter :=
  if v.scanned = path ∧ v.programs ≠ .empty then v
  else { v with programs := scan d path, scanned := path }

/-- The completer with the programs of `path` in a file system. -/
def refresh (v : VerbCompleter) (fs : Files) (path : Option Text) : VerbCompleter :=
  v.refreshOn (.ofFiles fs) path

/-- A name to choose, with a space after it. -/
def candidate (display name : Text) : Candidate := ⟨display, name ++ [' ']⟩

/-- The programs that begin with `start` and are neither builtins nor aliases. -/
def otherPrograms (v : VerbCompleter) (start : Text) : List Text :=
  (v.programs.startingWith start).filter fun p =>
    !((v.builtins.startingWith start).contains p || (v.aliases.startingWith start).contains p)

/-- The verbs that begin with `start`: builtins, then aliases, then the other programs. -/
def complete (v : VerbCompleter) (start : Text) : List Candidate :=
  (v.builtins.startingWith start).map (fun n => candidate n n) ++
    (v.aliases.startingWith start).map (fun n => candidate (n ++ " (alias)") n) ++
    (v.otherPrograms start).map fun n => candidate n n

end VerbCompleter

end AliasShell
