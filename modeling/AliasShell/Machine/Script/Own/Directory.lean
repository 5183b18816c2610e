/-
The directory of a script.

A script calls its directory by the path that led to it, links and all; `..` at the end of that path
takes its last part off again.
-/
import AliasShell.Machine.Script.Own.Basic

namespace AliasShell.Script.Own

/-- Parts of a path without `.`, and `..` taken off together with what stands before it. -/
def straight (parts : List Text) : List Text :=
  parts.foldl
    (fun done part =>
      if part = ['.'] ∨ part.isEmpty then done
      else if part = ['.', '.'] then done.dropLast
      else done ++ [part])
    []

/-- The path that a directory gets its name from, seen from another one.  Two `/` at the beginning,
and no more of them, stay. -/
def pathFrom (base p : Text) : Text :=
  let whole : Text := if Path.isAbsolute p then p else base ++ '/' :: p
  let path := Path.ofLocation (straight (whole.cut (· == '/')))
  if whole.startsWith "//" && !whole.startsWith "///" then '/' :: path else path

/-- The state in another directory, if there is one at the path. -/
def enter (s : State) (path called : Text) : Option State :=
  match s.files.locateWhole path with
  | .error _ => none
  | .ok loc =>
    if s.files.isDirAt loc then
      let old := s.directory
      let s := { s with files := { s.files with current := loc }, directory := called }
      let s := s.setVar "OLDPWD" old
      let s := s.change "OLDPWD" fun v => { v with exported := true }
      let s := s.setVar "PWD" called
      some (s.change "PWD" fun v => { v with exported := true })
    else none

/-- Where a path may lead by `CDPATH`, and whether that has to be said. -/
def elsewhere (s : State) (target : Text) : List (Text × Bool) :=
  let head := target.takeWhile (· != '/')
  if Path.isAbsolute target ∨ head = ['.'] ∨ head = ['.', '.'] then []
  else
    match s.var? "CDPATH" with
    | none => []
    | some path => (path.cut (· == ':')).map fun dir =>
      if dir.isEmpty then (target, false) else (dir ++ '/' :: target, true)

/-- Goes to a directory, and says which if it is not the one that was named. -/
def changeDir : Own := fun _ args s =>
  match flags "LP" args with
  | .error c => refuse s (badOption c)
  | .ok (letters, args) =>
    let (target, named) : Text × Bool := match args with
      | [] => (s.var "HOME", false)
      | ['-'] :: _ => (s.var "OLDPWD", true)
      | arg :: _ => (arg, false)
    let (target, named) := ((elsewhere s target).find? fun e => s.files.isDir e.1).getD
      (target, named)
    let physical := letters.getLast? = some 'P'
    let path := if physical then target else pathFrom s.directory target
    let called :=
      if physical then
        match s.files.locateWhole (if target.isEmpty then ['.'] else target) with
        | .ok loc => Path.ofLocation loc
        | .error _ => path
      else path
    match enter s (if path.isEmpty then ['.'] else path) called with
    | some s =>
      if s.running then
        if named then s.say (printed [called]) else s.withStatus 0
      else s
    | none => refuse s ("can't cd to " ++ target)

/-- Names the directory. -/
def showDir : Own := fun _ args s =>
  match flags "LP" args with
  | .error c => refuse s (badOption c)
  | .ok (letters, _) =>
    let physical := letters.getLast? = some 'P'
    s.say (printed [if physical then Path.ofLocation s.files.current else s.directory])

end AliasShell.Script.Own
