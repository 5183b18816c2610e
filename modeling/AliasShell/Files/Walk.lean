/-
From a path to a location.

A path is walked part by part.  `.` stays, `..` goes up, and a link puts its target in front of the
parts that are left.  Every part, `.` included, can only be taken from a directory, and a `/` at the
end of a path counts as one more `.`.  Forty links may be followed on one walk; `walk` recurses on
how many are left, and `follow` on the parts in between.
-/
import AliasShell.Files.Basic
import AliasShell.Path

namespace AliasShell

namespace Path

/-- The parts of a path, with a last `.` for a `/` at the end. -/
def parts (p : Text) : List Text :=
  (p.cut (· == '/')).filter (fun part => !part.isEmpty) ++
    if p.getLast? == some '/' then [['.']] else []

/-- The path of a location. -/
def ofLocation : Location → Text
  | [] => ['/']
  | loc => loc.flatMap ('/' :: ·)

end Path

namespace Files

/-- The longest name that a directory takes, in bytes. -/
def nameLimit : Nat := 255

/-- The number of links on one walk. -/
def linkLimit : Nat := 40

/-- The length from which on a path is refused as a whole, in bytes. -/
def pathLimit : Nat := 4096

/-- Goes from `loc` along the parts; at a link, `onLink` goes on with its target and the rest. -/
def follow (fs : Files) (onLink : Location → List Text → Except SysError Location) :
    Location → List Text → Except SysError Location
  | loc, [] => .ok loc
  | loc, part :: rest =>
    if !fs.isDirAt loc then .error .notDirectory
    else if part = ['.'] then follow fs onLink loc rest
    else if part = ['.', '.'] then follow fs onLink loc.dropLast rest
    else if nameLimit < part.byteLength then .error .nameTooLong
    else
      match fs.node? (loc ++ [part]) with
      | none => .error .notFound
      | some (.link target _) =>
        onLink (if Path.isAbsolute target then [] else loc) (Path.parts target ++ rest)
      | some _ => follow fs onLink (loc ++ [part]) rest

/-- Goes from `loc` along the parts with this many links left to follow. -/
def walk (fs : Files) : Nat → Location → List Text → Except SysError Location
  | 0 => follow fs fun _ _ => .error .tooManyLinks
  | links + 1 => follow fs (walk fs links)

/-- Where a path leads. -/
def locate (fs : Files) (p : Text) : Except SysError Location :=
  if '\x00' ∈ p then .error .nulInPath
  else if p.isEmpty then .error .notFound
  else fs.walk linkLimit (if Path.isAbsolute p then [] else fs.current) (Path.parts p)

/-- Where a path leads, for the operations that take it whole and limit its length. -/
def locateWhole (fs : Files) (p : Text) : Except SysError Location :=
  if '\x00' ∈ p then .error .nulInPath
  else if pathLimit ≤ p.byteLength then .error .nameTooLong
  else fs.locate p

/-! ### Where the process stands -/

section

variable (fs : Files) (place : Location)

theorem follow_standingAt (onLink : Location → List Text → Except SysError Location)
    (loc : Location) (parts : List Text) :
    (fs.standingAt place).follow onLink loc parts = fs.follow onLink loc parts := by
  induction parts generalizing loc with
  | nil => rfl
  | cons part rest ih => simp only [follow, isDirAt_standingAt, node?_standingAt, ih]

/-- A walk does not depend on where the process stands. -/
theorem walk_standingAt (links : Nat) : (fs.standingAt place).walk links = fs.walk links := by
  induction links with
  | zero => exact funext fun loc => funext fun parts => follow_standingAt fs place _ loc parts
  | succ links ih =>
    rw [walk, ih]
    exact funext fun loc => funext fun parts => follow_standingAt fs place _ loc parts

/-- Neither does where an absolute path leads. -/
theorem locate_standingAt {p : Text} (hp : Path.isAbsolute p = true) :
    (fs.standingAt place).locate p = fs.locate p := by
  rw [locate, locate, if_pos hp, if_pos hp, walk_standingAt]

theorem locateWhole_standingAt {p : Text} (hp : Path.isAbsolute p = true) :
    (fs.standingAt place).locateWhole p = fs.locateWhole p := by
  rw [locateWhole, locateWhole, locate_standingAt fs place hp]

end

end Files

end AliasShell
