/-
Tools that make and remove directories.
-/
import AliasShell.Machine.Rights
import AliasShell.Machine.Tools.Progress

namespace AliasShell.Tools

namespace Directories

/-- The directories on the way to a path, the nearest to the root first, and the path, all of them
as it writes them. -/
def pathsTo (path : Text) : List Text :=
  let ends := (List.range path.length).filter fun n =>
    path[n]? != some '/' && path[n + 1]? == some '/' && (path.drop (n + 1)).any (· != '/')
  ends.map (fun n => path.take (n + 1)) ++ [path]

/-- The rights of a new directory.  One that gets rights beyond the nine is made without those that
would let others write to it, and they stay away unless the rights have to be changed once more. -/
def rightsOf (changes : List Rights.Change) (mask : Nat) : Nat :=
  let mode := Rights.adjust true mask changes 0o777
  let decided := Rights.decided true mask changes 0o777
  let isSpecial := (decided &&& 0o6000) ||| (mode &&& 0o1000) != 0
  let made := (if isSpecial then Rights.without mode 0o022 else mode) &&& 0o1777
  if (made ^^^ mode) &&& decided = 0 then made else mode ||| Rights.without made decided

/-- The files with a directory that has these rights, if any were asked for. -/
def withDirectory (changes : Option (List Rights.Change)) (fs : Files) (path : Text) :
    Except SysError Files := do
  let made ← fs.makeDir path
  match changes with
  | none => return made
  | some changes =>
    let loc ← place made path
    return made.changeAt loc fun
      | .dir t => .dir { t with mode := rightsOf changes fs.mask }
      | node => node

/-- Makes a directory, or says why there cannot be one, and whether it could. -/
def makeHere (p : Process) (a : Asked) (w : Progress) (path : Text)
    (result : Except SysError Files) : Progress × Bool :=
  match result with
  | .ok files =>
    let said := p.name ++ ": created directory ".toList ++ Quoting.always path
    ({ w with files }.tell (a.has 'v') said, true)
  | .error e =>
    (w.complain p ("cannot create directory " ++ Quoting.always path ++ ": " ++ e.reason), false)

/-- Makes a directory, and those on the way to it if they are asked for.  What stands where one on
the way should be is no directory; what stands where the last one should be is there already. -/
def make (changes : Option (List Rights.Change)) (p : Process) (a : Asked) (w : Progress)
    (path : Text) : Progress :=
  let step : Progress × Bool → Text → Progress × Bool := fun (w, goesOn) part =>
    if !goesOn || w.files.isDir part then (w, goesOn)
    else
      let inTheWay := (w.files.locateWhole part).isOk && part != path
      makeHere p a w part
        (if inTheWay then .error .notDirectory
          else withDirectory (if part = path then changes else none) w.files part)
  if a.has 'p' then ((pathsTo path).foldl step (w, true)).1
  else (makeHere p a w path (withDirectory changes w.files path)).1

end Directories

/-- Makes directories. -/
def mkdir : Tool :=
  taking
    { plain := "pvZ", valued := "m", usage := "[OPTION]... DIRECTORY..."
      long := [("parents", 'p'), ("verbose", 'v'), ("mode", 'm'), ("context", 'Z')] }
    1 fun p a =>
      match a.value? 'm', (a.value? 'm').map Rights.ofText? with
      | some mode, some none =>
        if a.operands.isEmpty then misused p 1 "missing operand"
        else p.refuse 1 ("invalid mode " ++ Quoting.cited mode)
      | _, changes => overOperands "operand" (Directories.make (changes.bind fun c => c)) p a

namespace Directories

/-- The directories above a path, as it writes them, the nearest one first. -/
def above (path : Text) : List Text := ((pathsTo path).reverse).drop 1

/-- Whether a failure does not count. -/
def isExcused (a : Asked) (e : SysError) : Bool := a.has 'ι' && e == .notEmpty

/-- Removes the first of some directories, and then the next ones. -/
def removeAbove (p : Process) (a : Asked) (w : Progress) : List Text → Progress
  | [] => w
  | path :: paths =>
    let w := w.tell (a.has 'v') (p.name ++ ": removing directory, ".toList ++ Quoting.always path)
    match w.files.removeDir path with
    | .ok files => removeAbove p a { w with files } paths
    | .error e =>
      if isExcused a e then w
      else
        let what := if e = .notDirectory then "" else "directory "
        w.complain p ("failed to remove " ++ what ++ Quoting.always path ++ ": " ++ e.reason)

/-- Removes a directory, and those above it if they are asked for. -/
def remove (p : Process) (a : Asked) (w : Progress) (path : Text) : Progress :=
  let w := w.tell (a.has 'v') (p.name ++ ": removing directory, ".toList ++ Quoting.always path)
  let isDot := (path.cutLast (· == '/')).map (·.2) = some ['.'] ∨ path = ['.']
  let isLink := path.getLast? = some '/' && w.files.isDir path &&
    (match w.files.namedNode (Files.bare path) with
      | .ok (_, .link ..) => true
      | _ => false)
  match (if isDot ∧ w.files.isDir path then .error .invalid else w.files.removeDir path) with
  | .ok files =>
    let w := { w with files }
    if a.has 'p' then removeAbove p a w (above path) else w
  | .error e =>
    let reason := if isLink then "Symbolic link not followed".toList else e.reason
    if isExcused a e then w
    else w.complain p ("failed to remove " ++ Quoting.always path ++ ": " ++ reason)

end Directories

/-- Removes empty directories. -/
def rmdir : Tool :=
  taking
    { plain := "pvι", usage := "[OPTION]... DIRECTORY..."
      long := [("ignore-fail-on-non-empty", 'ι'), ("parents", 'p'), ("path", 'p'),
        ("verbose", 'v')] }
    1 (overOperands "operand" Directories.remove)

end AliasShell.Tools
