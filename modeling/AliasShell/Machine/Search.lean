/-
Looking for a program by its name in the directories of a `PATH`.

A file found there that is no program of any known kind is taken for a script without a first line,
and the interpreter of scripts runs it.
-/
import AliasShell.Machine.Process

namespace AliasShell.Search

/-- The directories that are looked in without a `PATH`. -/
def standardPath : Text := "/bin:/usr/bin"

/-- The interpreter of scripts. -/
def interpreter : Text := "/bin/sh"

/-- The file that a name means in a directory of a `PATH`. -/
def fileIn (dir name : Text) : Text := if dir.isEmpty then name else dir ++ '/' :: name

/-- The program files that a name may mean, in the order of the directories. -/
def candidates (path name : Text) : List Text := (path.cut (· == ':')).map (fileIn · name)

/-- The length from which on a directory is passed over. -/
def dirLimit : Nat := 4096

/-- The program files that are tried for a name.  In place of a directory that is too long comes the
present one, and nothing in place of the last. -/
def tried (name : Text) : List Text → List Text
  | [] => []
  | [dir] => if dirLimit ≤ dir.length then [] else [fileIn dir name]
  | dir :: dirs => fileIn (if dirLimit ≤ dir.length then [] else dir) name :: tried name dirs

/-- Tries program files until one can be started.  One that may not be run is passed over, and
remembered if none is found after it. -/
def firstOf (start : Text → Except SysError Aftermath) :
    SysError → List Text → Except SysError Aftermath
  | e, [] => .error e
  | e, path :: paths =>
    match start path with
    | .error .denied => firstOf start .denied paths
    | .error .notFound => firstOf start (if e = .denied then e else .notFound) paths
    | .error .notDirectory => firstOf start (if e = .denied then e else .notDirectory) paths
    | answer => answer

/-- Starts a program file, or has the interpreter run it if it is of no known kind. -/
def startLoosely (start : Starter) (path : Text) (p : Process) : Except SysError Aftermath :=
  match start path p with
  | .error .notExecutable =>
    start interpreter { p with name := interpreter, args := path :: p.args }
  | answer => answer

/-- The byte is of no use in a text. -/
def isStrange (b : UInt8) : Bool :=
  b < 9 || (15 < b && b < 27) || (27 < b && b < 32) || b == 127

/-- The first line of bytes is that of a text, as far as it is looked at. -/
def beginsAsText (data : Bytes) : Bool :=
  ((data.take 128).takeWhile (· != 10)).all fun b => !isStrange b

/-- The directories that a process looks in. -/
def pathOf (p : Process) : Text := (p.var? "PATH").getD standardPath

/-- Starts the program that a process is named for.  A name with a `/` is the path of a program
file. -/
def startNamed (start : Starter) (p : Process) : Except SysError Aftermath :=
  if p.name.contains '/' then start p.name p
  else if p.name.isEmpty then .error .notFound
  else firstOf (fun path => startLoosely start path p) .noReason
    (tried p.name ((pathOf p).cut (· == ':')))

end AliasShell.Search
