/-
A file system as a value: directories, files and symbolic links, each under the names that lead to
it from the root.

A link stands under its own name; what it leads to is a matter of walking a path, which is in
`Files.Walk`.
-/
import AliasShell.Text.Bytes

namespace AliasShell

/-- A point in time: microseconds since the beginning of 1970. -/
abbrev Moment := Int

namespace Moment

/-- The moment this many seconds after the beginning of 1970. -/
def ofSeconds (n : Int) : Moment := 1000000 * n

/-- The full seconds up to a moment. -/
def seconds (m : Moment) : Int := m / 1000000

end Moment

/-- Files that are no files. -/
inductive Device where
  /-- is always empty, and takes every write and keeps nothing -/
  | null
  /-- never ends, and takes every write and keeps nothing -/
  | zeros
  /-- never ends and takes no write -/
  | full
  /-- cannot be opened where there is no terminal -/
  | terminal
  /-- is the input of whoever opens it -/
  | input
  deriving Repr, DecidableEq

/-- What is known of a file or directory apart from what it holds. -/
structure Traits where
  /-- The rights: twelve bits, of which the last nine are for owner, group and others. -/
  mode : Nat
  modified : Moment
  /-- Files of one number that is not 0 are one file under several names. -/
  number : Nat := 0
  deriving Repr, DecidableEq

/-- What stands under a name. -/
inductive Node where
  | dir (t : Traits)
  | file (data : Bytes) (t : Traits)
  | link (target : Text) (modified : Moment)
  | device (d : Device)
  deriving Repr, DecidableEq

/-- The rights of a directory or a program. -/
def Traits.openMode : Nat := 0o755

/-- The rights of a file that is no program. -/
def Traits.plainMode : Nat := 0o644

/-- Somebody may run the file. -/
def Traits.runs (t : Traits) : Bool := t.mode / 64 % 2 + t.mode / 8 % 2 + t.mode % 2 != 0

namespace Node

/-- A directory that everybody may look into. -/
def ofDir (modified : Moment) : Node := .dir { mode := Traits.openMode, modified }

/-- A file that everybody may read, and run if it is a program. -/
def ofFile (data : Bytes) (runs : Bool) (modified : Moment) : Node :=
  .file data { mode := if runs then Traits.openMode else Traits.plainMode, modified }

/-- The node is a directory; a link to one is not. -/
def isDir : Node → Bool
  | .dir _ => true
  | _ => false

/-- The node is a link. -/
def isLink : Node → Bool
  | .link _ _ => true
  | _ => false

/-- The node is a file that somebody may run. -/
def isProgram : Node → Bool
  | .file _ t => t.runs
  | _ => false

/-- The rights of the node. -/
def mode : Node → Nat
  | .dir t => t.mode
  | .file _ t => t.mode
  | .link _ _ => 0o777
  | .device _ => 0o666

/-- When the node was last changed. -/
def modified : Node → Moment
  | .dir t => t.modified
  | .file _ t => t.modified
  | .link _ t => t
  | .device _ => 0

end Node

/-- The names from the root down. -/
abbrev Location := List Text

/-- Why the system refuses a file operation. -/
inductive SysError where
  | notFound
  /-- a device that is not there -/
  | noDevice
  /-- a program file of no known kind -/
  | notExecutable
  | denied
  /-- a program's argument that is too long, or too many of them -/
  | tooMuch
  /-- something stands there already -/
  | present
  | notDirectory
  | isDirectory
  | nameTooLong
  | notEmpty
  /-- a path for which the operation makes no sense -/
  | invalid
  /-- nobody may do that -/
  | notPermitted
  /-- something that is in use -/
  | busy
  | tooManyLinks
  /-- a path cannot hold a NUL -/
  | nulInPath
  /-- neither can a program's name or argument -/
  | nulInArgument
  /-- a file was to be read as text and is none -/
  | notText
  /-- nothing was tried that could have been refused -/
  | noReason
  deriving Repr, DecidableEq

namespace SysError

/-- What the system calls an error. -/
def reason : SysError → Text
  | .notFound => "No such file or directory"
  | .noDevice => "No such device or address"
  | .tooMuch => "Argument list too long"
  | .notExecutable => "Exec format error"
  | .denied => "Permission denied"
  | .present => "File exists"
  | .notDirectory => "Not a directory"
  | .isDirectory => "Is a directory"
  | .nameTooLong => "File name too long"
  | .notEmpty => "Directory not empty"
  | .invalid => "Invalid argument"
  | .notPermitted => "Operation not permitted"
  | .busy => "Device or resource busy"
  | .tooManyLinks => "Too many levels of symbolic links"
  | .nulInPath => "file name contained an unexpected NUL byte"
  | .nulInArgument => "nul byte found in provided data"
  | .notText => "stream did not contain valid UTF-8"
  | .noReason => "Success"

/-- The number that the system gives an error. -/
def number? : SysError → Option Text
  | .noReason => some "0".toList
  | .notPermitted => some "1".toList
  | .notFound => some "2".toList
  | .noDevice => some "6".toList
  | .tooMuch => some "7".toList
  | .notExecutable => some "8".toList
  | .denied => some "13".toList
  | .busy => some "16".toList
  | .present => some "17".toList
  | .notDirectory => some "20".toList
  | .isDirectory => some "21".toList
  | .invalid => some "22".toList
  | .nameTooLong => some "36".toList
  | .notEmpty => some "39".toList
  | .tooManyLinks => some "40".toList
  | .nulInPath | .nulInArgument | .notText => none

/-- The wording of an error. -/
def message (e : SysError) : Text :=
  match e.number? with
  | some n => e.reason ++ " (os error " ++ n ++ ")"
  | none => e.reason

end SysError

/-- Files, as a process sees them. -/
structure Files where
  /-- The nodes below the root, in the order in which a directory delivers them. -/
  nodes : List (Location × Node)
  /-- The directory that relative paths hang on. -/
  current : Location
  /-- What time it is. -/
  now : Moment := 0
  /-- What is taken away from the rights of new files. -/
  mask : Nat := 0o22
  deriving Repr, DecidableEq

namespace Files

/-- Nothing but the root. -/
def empty : Files := { nodes := [], current := [] }

/-- The same files, as a process sees them that stands at `loc`. -/
def standingAt (fs : Files) (loc : Location) : Files := { fs with current := loc }

/-- The node at a location; the root is always there. -/
def node? (fs : Files) : Location → Option Node
  | [] => some (.ofDir 0)
  | loc => fs.nodes.lookup loc

/-- A directory stands at the location. -/
def isDirAt (fs : Files) (loc : Location) : Bool := (fs.node? loc).any Node.isDir

@[simp] theorem node?_standingAt (fs : Files) (place loc : Location) :
    (fs.standingAt place).node? loc = fs.node? loc := rfl

@[simp] theorem isDirAt_standingAt (fs : Files) (place loc : Location) :
    (fs.standingAt place).isDirAt loc = fs.isDirAt loc := rfl

/-- The names right below a location, with their nodes. -/
def children (fs : Files) (loc : Location) : List (Text × Node) :=
  fs.nodes.filterMap fun (l, node) =>
    match l.getLast? with
    | some name => if l.dropLast = loc then some (name, node) else none
    | none => none

/-- `node` in place of the one at `loc`, or at the end. -/
def replace (loc : Location) (node : Node) : List (Location × Node) → List (Location × Node)
  | [] => [(loc, node)]
  | e :: es => if e.1 = loc then (loc, node) :: es else e :: replace loc node es

/-- `node` at `loc`. -/
def put (fs : Files) (loc : Location) (node : Node) : Files :=
  { fs with nodes := replace loc node fs.nodes }

/-- The directories above `loc` that are missing, made as they are at the beginning of 1970. -/
def makeParents (fs : Files) (loc : Location) : Files :=
  (List.range loc.length).foldl
    (fun fs n =>
      if n = 0 ∨ (fs.node? (loc.take n)).isSome then fs else fs.put (loc.take n) (.ofDir 0))
    fs

/-- The rights of something new: those asked for, less what is taken away. -/
def modeOf (fs : Files) (wanted : Nat) : Nat := wanted &&& (0o777 ^^^ (fs.mask &&& 0o777))

/-- What is known of something new. -/
def fresh (fs : Files) (wanted : Nat) : Traits := { mode := fs.modeOf wanted, modified := fs.now }

/-- The files without what stands at `loc` or below it. -/
def remove (fs : Files) (loc : Location) : Files :=
  { fs with nodes := fs.nodes.filter fun e => !loc.isPrefixOf e.1 }

end Files

end AliasShell
