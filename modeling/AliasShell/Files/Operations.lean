/-
What the shell asks of a file system.
-/
import AliasShell.Files.Walk

namespace AliasShell.Files

/-- The place of what a process has opened, by number. -/
def opened : Location := ["proc", "self", "fd"].map String.toList

/-- The files without what a process has opened, which has no path of its own. -/
def withoutOpened (fs : Files) : Files :=
  { fs with nodes := fs.nodes.filter fun e => e.1.dropLast != opened }

/-- The absolute path without links, `.` and `..`. -/
def canonical (fs : Files) (p : Text) : Except SysError Text :=
  (fs.withoutOpened.locate p).map Path.ofLocation

/-- The path leads to a directory. -/
def isDir (fs : Files) (p : Text) : Bool :=
  match fs.locateWhole p with
  | .ok loc => fs.isDirAt loc
  | .error _ => false

/-- The entries of a directory, in the order in which it delivers them. -/
def readDir (fs : Files) (p : Text) : Except SysError (List (Text × Node)) := do
  let loc ← fs.locateWhole p
  if fs.isDirAt loc then return fs.children loc else throw .notDirectory

/-- Goes to the directory that a path leads to.  Where there is none, the process stays. -/
def goTo (fs : Files) (p : Text) : Files :=
  match fs.locateWhole p with
  | .ok loc => if fs.isDirAt loc then fs.standingAt loc else fs
  | .error _ => fs

/-- The contents of a file. -/
def read (fs : Files) (p : Text) : Except SysError Bytes := do
  let loc ← fs.locateWhole p
  match fs.node? loc with
  | some (.file data _) => return data
  | some (.device .terminal) => throw .noDevice
  | some (.device _) => return []
  | some (.dir _) => throw .isDirectory
  | _ => throw .notFound

/-- The path leads to the input of whoever opens it, of which the files know nothing. -/
def isInput (fs : Files) (p : Text) : Bool :=
  match fs.locateWhole p with
  | .ok loc => fs.node? loc = some (.device .input)
  | .error _ => false

/-- A device that never ends stands at the path. -/
def isEndless (fs : Files) (p : Text) : Bool :=
  match fs.locateWhole p with
  | .ok loc => fs.node? loc = some (.device .zeros) || fs.node? loc = some (.device .full)
  | .error _ => false

/-- The text that bytes are. -/
def textOf (data : Bytes) : Except SysError Text :=
  match Bytes.decode? data with
  | some t => .ok t
  | none => .error .notText

/-- The contents of a file as text. -/
def readText (fs : Files) (p : Text) : Except SysError Text := fs.read p >>= textOf

/-- Where parts lead from the root, those that lead nowhere yet taken as they stand. -/
def reach (fs : Files) (parts : List Text) : Location :=
  parts.foldl
    (fun loc part => (fs.walk linkLimit loc [part]).toOption.getD (loc ++ [part])) []

/-- Where a path would put a new node: its last part under what the rest leads to. -/
def placeFor (fs : Files) (p : Text) : Location :=
  let parts := (p.cut (· == '/')).filter fun part => !part.isEmpty
  match parts.getLast? with
  | none => []
  | some name => fs.reach parts.dropLast ++ [name]

/-- The node under an absolute path, with the directories above it. -/
def create (fs : Files) (p : Text) (node : Node) : Files :=
  let loc := fs.placeFor p
  if loc = [] then fs else (fs.makeParents loc).put loc node

/-- The files without what an absolute path names, a link itself and not what it leads to. -/
def delete (fs : Files) (p : Text) : Files :=
  let loc := fs.placeFor p
  if loc = [] then fs else fs.remove loc

/-! ### Where the process stands

What is asked of an absolute path does not depend on it. -/

section

variable (fs : Files) (place : Location) {p : Text}

theorem canonical_standingAt (hp : Path.isAbsolute p = true) :
    (fs.standingAt place).canonical p = fs.canonical p :=
  congrArg (Except.map Path.ofLocation) (locate_standingAt fs.withoutOpened place hp)

theorem isDir_standingAt (hp : Path.isAbsolute p = true) :
    (fs.standingAt place).isDir p = fs.isDir p := by
  rw [isDir, isDir, locateWhole_standingAt fs place hp]
  rfl

theorem readDir_standingAt (hp : Path.isAbsolute p = true) :
    (fs.standingAt place).readDir p = fs.readDir p := by
  rw [readDir, readDir, locateWhole_standingAt fs place hp]
  rfl

end

/-- Going somewhere changes nothing but where the process stands. -/
theorem exists_goTo (fs : Files) (p : Text) : ∃ place, fs.goTo p = fs.standingAt place := by
  unfold goTo
  split
  · split
    · exact ⟨_, rfl⟩
    · exact ⟨fs.current, rfl⟩
  · exact ⟨fs.current, rfl⟩

end AliasShell.Files
