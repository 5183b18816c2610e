/-
Completing a path: the entries of the directory typed so far.
-/
import AliasShell.Completion.Verbs
import AliasShell.Path

namespace AliasShell

/-- What completing asks of the system: the names in a directory, which need not be text, in the
order in which it delivers them, and whether a path leads to a directory. -/
structure Disk where
  names : Text → Except SysError (List Bytes)
  isDir : Text → Bool

/-- A file system as a disk. -/
def Disk.ofFiles (fs : Files) : Disk where
  names dir := (fs.readDir dir).map fun entries => entries.map fun e => e.1.encode
  isDir := fs.isDir

/-- Where paths are completed from. -/
structure PathCompleter where
  cwd : Text
  home : Option Text
  deriving Repr, DecidableEq

namespace PathCompleter

/-- A word up to its last separator, and the start of a name after it. -/
def cutWord (word : Text) : Text × Text := (word.cutLast Path.isSeparator).getD ([], word)

/-- The directory to look in; there is none without the home that it is meant from. -/
def searchDir (c : PathCompleter) (typed : Text) : Option Text :=
  if typed.isEmpty then some c.cwd
  else
    match Path.expand c.home typed with
    | .ok dir => some (Path.join c.cwd dir)
    | .error _ => none

/-- The name begins as typed; one that begins with a point has to be asked for with a point. -/
def fits (start name : Text) : Bool :=
  name.startsWith start && (!name.startsWith "." || start.startsWith ".")

/-- An entry to choose, with a `/` after a directory and a space after anything else. -/
def candidate (typed name : Text) (isDir : Bool) : Candidate :=
  if isDir then ⟨name ++ ['/'], typed ++ name ++ ['/']⟩ else ⟨name, typed ++ name ++ [' ']⟩

/-- The entry of a name to choose, if the name is text and fits. -/
def candidate? (typed start : Text) (isDir : Text → Bool) (name : Bytes) : Option Candidate :=
  match Bytes.decode? name with
  | some name => if fits start name then some (candidate typed name (isDir name)) else none
  | none => none

/-- Entries to choose, in the order in which they are shown. -/
def choices (typed start : Text) (isDir : Text → Bool) (names : List Bytes) : List Candidate :=
  (names.filterMap (candidate? typed start isDir)).mergeSort fun a b => a.display.le b.display

/-- The entries on a disk that complete a word. -/
def completeOn (c : PathCompleter) (d : Disk) (word : Text) : List Candidate :=
  let (typed, start) := cutWord word
  match c.searchDir typed with
  | none => []
  | some dir =>
    match d.names dir with
    | .error _ => []
    | .ok names => choices typed start (fun name => d.isDir (Path.join dir name)) names

/-- The entries in a file system that complete a word. -/
def complete (c : PathCompleter) (fs : Files) (word : Text) : List Candidate :=
  c.completeOn (.ofFiles fs) word

end PathCompleter

end AliasShell
