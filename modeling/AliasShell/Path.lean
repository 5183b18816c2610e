/-
Paths as text: which are absolute, how one is hung on another, and the home directory in them.

A path that is `~`, or begins with `~` and a separator, is meant from the home directory; `~name` is
an ordinary name.  `expand` reads a path of the shell's own and normalizes separators, `expandArg`
resolves an argument of a program and leaves alone whatever it cannot expand.
-/
import AliasShell.Text.Basic

namespace AliasShell

namespace Path

/-- What separates the parts of a path where a user types one. -/
def isSeparator (c : Char) : Bool := c == '/' || c == '\\'

/-- The path begins at the root. -/
def isAbsolute (p : Text) : Bool := p.head? == some '/'

/-- `p` seen from `base`: an absolute path stands alone, any other one follows `base` after a
`/`, which is not repeated and does not begin a path. -/
def join (base p : Text) : Text :=
  if isAbsolute p then p
  else if base.isEmpty || base.getLast? == some '/' then base ++ p
  else base ++ '/' :: p

/-- Every separator written as `/`. -/
def normalize (p : Text) : Text := p.map fun c => if isSeparator c then '/' else c

end Path

/-! ### The home directory -/

/-- Why a path cannot be expanded. -/
inductive PathError where
  /-- the session has no home -/
  | homeNotFound
  deriving Repr, DecidableEq

/-- The wording of an error. -/
def PathError.message : PathError → Text
  | .homeNotFound => "home directory not found"

namespace Path

/-- The home directory itself. -/
def homeDir (home : Option Text) : Except PathError Text :=
  match home with
  | some h => .ok h
  | none => .error .homeNotFound

/-- The path is `~`, or begins with `~` and a separator. -/
def isHomePath : Text → Bool
  | ['~'] => true
  | '~' :: c :: _ => isSeparator c
  | _ => false

/-- `base` with the parts of `rest` under it, one below the other. -/
def descend (base rest : Text) : Text :=
  ((rest.cut isSeparator).filter fun part => !part.isEmpty).foldl join base

/-- A path that begins with `~`. -/
def expandTilde (home : Option Text) (p : Text) : Except PathError Text :=
  match p.drop 1 with
  | [] => homeDir home
  | c :: rest => if isSeparator c then (homeDir home).map (descend · rest) else .ok p

/-- A path with its home and its separators resolved. -/
def expand (home : Option Text) (p : Text) : Except PathError Text :=
  let q := normalize p
  if q.head? == some '~' then expandTilde home q else .ok q

/-- An argument of a program with its home resolved. -/
def expandArg (home : Option Text) (arg : Text) : Text :=
  if isHomePath arg then
    match expandTilde home arg with
    | .ok p => p
    | .error _ => arg
  else arg

end Path

end AliasShell
