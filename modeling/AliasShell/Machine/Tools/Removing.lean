/-
Tools that remove what stands under names.
-/
import AliasShell.Machine.Tools.Plain
import AliasShell.Machine.Tools.Progress

namespace AliasShell.Tools

namespace Removing

/-- When the user is asked. -/
inductive Asking where
  | never
  /-- before anything is removed, if it is much -/
  | once
  | always
  deriving Repr, DecidableEq

/-- What is asked for. -/
structure Plan where
  recursive : Bool
  /-- empty directories are removed -/
  empties : Bool
  tells : Bool
  /-- what is not there is removed already -/
  force : Bool
  asking : Asking
  deriving Repr, DecidableEq

/-- The words for when the user is asked. -/
def askingWords : List (String × Asking) :=
  [("never", .never), ("no", .never), ("none", .never), ("once", .once), ("always", .always),
    ("yes", .always)]

/-- The plan with one more option. -/
def Plan.with (p : Process) (plan : Plan) (option : Char × Text) : Except Aftermath Plan :=
  match option with
  | ('r', _) => .ok { plan with recursive := true }
  | ('R', _) => .ok { plan with recursive := true }
  | ('d', _) => .ok { plan with empties := true }
  | ('v', _) => .ok { plan with tells := true }
  | ('f', _) => .ok { plan with force := true, asking := .never }
  | ('i', _) => .ok { plan with force := false, asking := .always }
  | ('I', _) => .ok { plan with force := false, asking := .once }
  | ('ι', word) => do
    let asking ← if word.isEmpty then pure .always else choose p "interactive" askingWords word
    return { plan with asking, force := plan.force && asking == .never }
  | _ => .ok plan

/-- The node goes, and is told of. -/
def drop (plan : Plan) (w : Progress) (loc : Location) (said : Text) : Progress :=
  { w with files := w.files.remove loc }.tell plan.tells said

/-- Removes a node that is called by a path, and what is below it; at most `n` levels. -/
def removeAt (plan : Plan) (p : Process) : Nat → Progress → Text → Location → Node → Progress
  | 0, w, _, _, _ => w
  | n + 1, w, path, loc, node =>
    let ask (w : Progress) (question : Text) : Progress × Bool :=
      if plan.asking = .always then w.ask p (question ++ ' ' :: Quoting.always path) else (w, true)
    if node.isDir then
      let children := w.files.children loc
      let (w, goesOn) :=
        if children.isEmpty then (w, true) else ask w "descend into directory"
      if !goesOn then w
      else
        let w := children.foldl
          (fun w (name, node) =>
            removeAt plan p n w (Path.join path name) (loc ++ [name]) node) w
        let (w, goesOn) := ask w "remove directory"
        if !goesOn then w
        else if (w.files.children loc).isEmpty then
          drop plan w loc ("removed directory " ++ Quoting.always path)
        else
          w.complain p ("cannot remove " ++ Quoting.always path ++ ": " ++ SysError.notEmpty.reason)
    else
      let (w, goesOn) := ask w ("remove " ++ kindName node)
      if goesOn then drop plan w loc ("removed " ++ Quoting.always path) else w

/-- Removes what a path names. -/
def removeOne (plan : Plan) (p : Process) (w : Progress) (path : Text) : Progress :=
  let refuse (e : SysError) : Progress :=
    w.complain p ("cannot remove " ++ Quoting.always path ++ ": " ++ e.reason)
  let isLink := match w.files.namedNode (Files.bare path) with
    | .ok (_, .link ..) => path.getLast? == some '/'
    | _ => false
  match nodeAt w.files path with
  | .error e => if plan.force && (e = .notFound || e = .notDirectory) then w else refuse e
  | .ok (loc, node) =>
    if node.isDir then
      let dots := lastPart path = ['.'] ∨ lastPart path = ['.', '.']
      if plan.recursive then
        if dots then
          w.complain p
            ("refusing to remove '.' or '..' directory: skipping " ++ Quoting.always path)
        else if loc = [] then
          let danger : Text := "it is dangerous to operate recursively on " ++ Quoting.always path
          (w.complain p danger).complain p "use --no-preserve-root to override this failsafe"
        else if isLink then refuse .notDirectory
        else removeAt plan p (w.files.nodes.length + 1) w path loc node
      else if plan.empties then
        if (w.files.children loc).isEmpty then removeAt plan p 1 w path loc node
        else refuse .notEmpty
      else refuse .isDirectory
    else removeAt plan p 1 w path loc node

/-- The question about everything, if it is asked. -/
def question? (plan : Plan) (names : List Text) : Option Text :=
  if plan.asking = .once ∧ (plan.recursive ∨ 3 < names.length) then
    some ("remove " ++ Integer.digits names.length ++
      (if names.length = 1 then " argument" else " arguments").toList ++
      (if plan.recursive then " recursively" else "").toList)
  else none

/-- Its options. -/
def letters : Letters :=
  { plain := "dfiIrRvξπ", loose := "ιω", usage := "[OPTION]... [FILE]..."
    long := [("force", 'f'), ("interactive", 'ι'), ("one-file-system", 'ξ'),
      ("no-preserve-root", 'π'), ("preserve-root", 'ω'), ("recursive", 'r'), ("dir", 'd'),
      ("verbose", 'v')] }

/-- Removes what operands name. -/
def run (p : Process) (a : Asked) : Except Aftermath Aftermath := do
  let plan ← a.options.foldlM (Plan.with p) ⟨false, false, false, false, .never⟩
  if a.operands.isEmpty then
    if plan.force then return p.quit 0 else failMisused p 1 "missing operand"
  let (w, goesOn) := match question? plan a.operands with
    | some t => (Progress.start p).ask p t
    | none => (Progress.start p, true)
  return (if goesOn then a.operands.foldl (removeOne plan p) w else w).done p

/-- What to do about a file whose name was taken for an option. -/
def advice (p : Process) : Transcript :=
  match p.args.find? fun t => t.head? = some '-' ∧ t != ['-'] ∧ (place p.files t).isOk = true with
  | some t =>
    [(.errors, Text.bytes ("Try '".toList ++ p.name ++ " ./".toList ++ t ++
      "' to remove the file ".toList ++ Quoting.always t ++ ".\n".toList))]
  | none => []

end Removing

/-- Removes files and directories. -/
def rm : Tool := fun p =>
  match readAsked Removing.letters p.args.length p.args with
  | .ok a => (aboutSelf? p Removing.letters a).getD (settle (Removing.run p a))
  | .error t => p.leave 1 (p.complaint t :: Removing.advice p ++ [hint p])

/-- Removes one name. -/
def unlink : Tool :=
  taking { plain := [], usage := "FILE" } 1 fun p a =>
    match a.operands with
    | [] => misused p 1 "missing operand"
    | [path] =>
      ((Progress.start p).change p (p.files.removeFile path) [] false fun e =>
        "cannot unlink " ++ Quoting.always path ++ ": " ++ e.reason).done p
    | _ :: t :: _ => misused p 1 ("extra operand " ++ Quoting.cited t)

end AliasShell.Tools
