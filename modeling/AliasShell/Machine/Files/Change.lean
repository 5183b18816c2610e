/-
Changes that a program makes to the files: each one by a path, each one refused as the system
refuses it.

A new node goes under the last part of the path, in the directory that the rest of it leads to; a
path that ends in a link stands for the link here.  Whatever is written is dated to the time that
the files have.
-/
import AliasShell.Files.Operations

namespace AliasShell.Files

/-- The path without the `/` it ends in. -/
def bare (p : Text) : Text := (p.reverse.dropWhile (· == '/')).reverse

/-- The place that a path gives to a node: the directory that the path leads to but for its last
part, and that part. -/
def newPlace (fs : Files) (p : Text) : Except SysError Location := do
  let (dir, name) := (p.cutLast (· == '/')).getD (['.'], p)
  if p.isEmpty then throw .notFound
  let loc ← fs.locateWhole dir
  if !fs.isDirAt loc then throw .notDirectory
  else if name.isEmpty then throw .isDirectory
  else if nameLimit < name.byteLength then throw .nameTooLong
  else if name = ['.'] ∨ name = ['.', '.'] then
    let loc ← fs.locateWhole p
    return loc
  else return loc ++ [name]

/-- The node that a path names, a link itself and not what it leads to. -/
def namedNode (fs : Files) (p : Text) : Except SysError (Location × Node) := do
  let loc ← if (bare p).isEmpty then fs.locateWhole p else fs.newPlace (bare p)
  match fs.node? loc with
  | some node => return (loc, node)
  | none => throw .notFound

/-- Where a path leads that is to be written, which may be a name with nothing under it yet. -/
def writable (fs : Files) (p : Text) : Except SysError Location :=
  match fs.locateWhole p with
  | .ok loc => if fs.isDirAt loc then .error .isDirectory else .ok loc
  | .error .notFound =>
    match fs.newPlace p with
    | .ok loc =>
      match fs.node? loc with
      | some (.link target _) =>
        fs.newPlace (Path.join (Path.ofLocation loc.dropLast) target)
      | _ => .ok loc
    | .error e => .error e
  | .error e => .error e

/-- The files with `change` applied to all that is known of the file of a number. -/
def changeNumber (fs : Files) (number : Nat) (change : Node → Node) : Files :=
  { fs with nodes := fs.nodes.map fun (loc, node) =>
      match node with
      | .file _ t => (loc, if t.number = number then change node else node)
      | _ => (loc, node) }

/-- The files with `change` applied to a node, which may be a file under several names. -/
def changeAt (fs : Files) (loc : Location) (change : Node → Node) : Files :=
  match fs.node? loc with
  | some (.file data t) =>
    if t.number = 0 then fs.put loc (change (.file data t)) else fs.changeNumber t.number change
  | some node => fs.put loc (change node)
  | none => fs

/-- The files with `change` applied to the contents of the file at `loc`, which is made if there is
none.  What is written to a device is lost. -/
def modifyAt (fs : Files) (loc : Location) (change : Bytes → Bytes) : Files :=
  match fs.node? loc with
  | some (.file _ _) =>
    fs.changeAt loc fun
      | .file data t => .file (change data) { t with modified := fs.now }
      | node => node
  | some _ => fs
  | none => fs.put loc (.file (change []) (fs.fresh 0o666))

/-- The files with `change` applied to the contents of a file, which is made if there is none. -/
def modify (fs : Files) (p : Text) (change : Bytes → Bytes) : Except SysError Files :=
  (fs.writable p).map fun loc => fs.modifyAt loc change

/-- The files with a new node. -/
def makeNode (fs : Files) (p : Text) (node : Node) : Except SysError Files := do
  let loc ← if (bare p).isEmpty then fs.locateWhole p else fs.newPlace (bare p)
  if (fs.node? loc).isSome then throw .present else return fs.put loc node

/-- The files with a new directory. -/
def makeDir (fs : Files) (p : Text) : Except SysError Files :=
  fs.makeNode p (.dir (fs.fresh 0o777))

/-- The files without an empty directory. -/
def removeDir (fs : Files) (p : Text) : Except SysError Files := do
  let (loc, node) ← fs.namedNode p
  if !node.isDir then throw .notDirectory
  else if loc = [] ∨ !(fs.children loc).isEmpty then throw .notEmpty
  else return fs.remove loc

/-- The files without a file or link. -/
def removeFile (fs : Files) (p : Text) : Except SysError Files := do
  let (loc, node) ← fs.namedNode p
  if node.isDir then throw .isDirectory else return fs.remove loc

/-- The files with everything at or below one place moved to another, where it takes the place of
what stood there. -/
def move (fs : Files) (source target : Location) : Files :=
  let moved := fs.nodes.filterMap fun (loc, node) =>
    if source.isPrefixOf loc then some (target ++ loc.drop source.length, node) else none
  let rest := (fs.remove source).remove target
  { fs with nodes := rest.nodes ++ moved }

end AliasShell.Files
