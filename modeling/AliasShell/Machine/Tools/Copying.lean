/-
Tools that copy and move files and directories.

What is copied is read through links or as a link, depending on where it stands and on what is asked
for.  A directory is made before what is in it is copied, so a copy of a directory into itself goes
on until it would copy what it has made.
-/
import AliasShell.Machine.Tools.Targets

namespace AliasShell.Tools

namespace Copying

open Targets

/-! ### What is asked for -/

/-- Which links are followed. -/
inductive Follow where
  | never
  /-- those that operands name -/
  | operands
  | always
  deriving Repr, DecidableEq

/-- What becomes of a file that stands there already. -/
inductive Existing where
  | replace
  | skip
  | ask
  deriving Repr, DecidableEq

/-- What stands for the contents of a file in a copy. -/
inductive Kind where
  | data
  | hardLink
  | symbolicLink
  | nothing
  deriving Repr, DecidableEq

/-- How copies or moves are made. -/
structure Plan where
  moves : Bool := false
  recursive : Bool := false
  follow : Follow := .always
  existing : Existing := .replace
  /-- only what is newer than what stands there -/
  update : Bool := false
  /-- what stands there is removed first -/
  removes : Bool := false
  /-- links take the place of what stands there -/
  force : Bool := false
  kind : Kind := .data
  keepsTimes : Bool := false
  /-- whether the rights are kept as they are, or not looked at -/
  mode : Option Bool := none
  keepsLinks : Bool := false
  tells : Bool := false
  backup : Backup := .none
  suffix : Text := ['~']
  deriving Repr, DecidableEq

/-- The work so far. -/
structure Work where
  progress : Progress
  /-- what was made for operands -/
  made : List Location := []
  /-- what operands named -/
  seen : List Location := []
  /-- the directories that were copied for operands or made for them, and where to -/
  dirs : List (Location × Location) := []
  /-- the files with several names that were copied -/
  shared : List (Nat × Location) := []

namespace Work

/-- The files as they are now. -/
def files (w : Work) : Files := w.progress.files

/-- The work with other files. -/
def withFiles (w : Work) (files : Files) : Work :=
  { w with progress := { w.progress with files } }

/-- One more complaint. -/
def complain (w : Work) (p : Process) (t : Text) : Work :=
  { w with progress := w.progress.complain p t }

/-- One more line among the errors. -/
def warn (w : Work) (p : Process) (t : Text) : Work :=
  { w with progress := w.progress.warn p t }

/-- One more line, if it is wanted. -/
def tell (w : Work) (wanted : Bool) (t : Text) : Work :=
  { w with progress := w.progress.tell wanted t }

end Work

/-- Two names in quotes with something between them. -/
def both (x between y : Text) : Text := Quoting.always x ++ between ++ Quoting.always y

/-! ### Whether it is one file -/

/-- What two paths stand for: each the place of what it names, and of what that leads to. -/
structure Ends where
  source : Location
  target : Location
  sourceEnd : Option Location
  targetEnd : Option Location
  deriving Repr, DecidableEq

/-- What is to be done about a source that may be its own target. -/
inductive Verdict where
  | goesOn
  /-- nothing is left to do -/
  | finished
  | same
  deriving Repr, DecidableEq

/-- The verdict where links are left alone. -/
def verdictOnLinks (plan : Plan) (fs : Files) (e : Ends) : Verdict :=
  let same := sameFile fs e.source e.target
  if isLink fs e.source && isLink fs e.target then
    if e.source = e.target then .same
    else if plan.backup ≠ .none then .goesOn
    else if same then (if plan.moves then .same else .finished) else .goesOn
  else if plan.backup ≠ .none then (if same && e.source == e.target then .same else .goesOn)
  else if (plan.moves || plan.removes) && isLink fs e.target then .goesOn
  else if (plan.moves || plan.removes) && same && e.source != e.target then
    if plan.moves then .same else .goesOn
  else if !isLink fs e.source && !isLink fs e.target && !same then .goesOn
  else if !isLink fs e.source && !isLink fs e.target && plan.kind = .hardLink then .finished
  else if plan.kind = .symbolicLink && isLink fs e.target then .goesOn
  else
    match e.sourceEnd, e.targetEnd with
    | some x, some y =>
      if !sameFile fs x y then .goesOn
      else if plan.kind = .hardLink then (if isLink fs e.target then .goesOn else .finished)
      else .same
    | _, _ => .goesOn

/-- The verdict where links are followed. -/
def verdictThroughLinks (plan : Plan) (fs : Files) (e : Ends) : Verdict :=
  let same := match e.sourceEnd, e.targetEnd with
    | some x, some y => sameFile fs x y
    | _, _ => false
  let sameNodes := sameFile fs e.source e.target
  if !same then .goesOn
  else if isLink fs e.source && isLink fs e.target && plan.removes then .goesOn
  else if plan.backup ≠ .none then
    if !sameNodes then (if isLink fs e.source && !isLink fs e.target then .same else .goesOn)
    else if e.source = e.target then .same else .goesOn
  else if plan.removes && (isLink fs e.target || (sameNodes && e.source != e.target)) then .goesOn
  else if !isLink fs e.source && !isLink fs e.target && !sameNodes then .goesOn
  else if !isLink fs e.source && !isLink fs e.target && plan.kind = .hardLink then .finished
  else if plan.kind = .symbolicLink && isLink fs e.target then .goesOn
  else .same

/-- What is to be done about a source that may be its own target. -/
def verdict (plan : Plan) (fs : Files) (source target : Text) (loc goal : Location) : Verdict :=
  let nodeOf (path : Text) (loc : Location) : Location :=
    ((nodeAt fs path).toOption.map (·.1)).getD loc
  let e : Ends :=
    { source := nodeOf source loc
      target := nodeOf target goal
      sourceEnd := (fs.locateWhole source).toOption
      targetEnd := (fs.locateWhole target).toOption }
  let isOne := sameFile fs loc goal
  if isOne && plan.kind == .hardLink then .finished
  else if plan.follow = .never || plan.moves then verdictOnLinks plan fs e
  else verdictThroughLinks plan fs e

/-! ### One node -/

/-- What a copy of a node is about. -/
structure Job where
  source : Text
  loc : Location
  node : Node
  target : Text
  /-- the operand that it is part of, and where that goes -/
  top : Text × Text
  isOperand : Bool
  /-- there are several operands -/
  several : Bool

/-- The line that tells of a copy. -/
def line (j : Job) (ending : Option Text) : Text :=
  both j.source " -> " j.target ++ backupRemark j.target ending

/-- The rights and the time of a new copy. -/
def traitsOf (plan : Plan) (fs : Files) (node : Node) : Traits :=
  let mode := match plan.mode with
    | some true => node.mode
    | some false => fs.modeOf (if node.isDir then 0o777 else 0o666)
    | none => fs.modeOf (node.mode &&& 0o777)
  { mode, modified := if plan.keepsTimes then node.modified else fs.now }

/-- The files with what is kept of a source put on its copy. -/
def withKept (plan : Plan) (fs : Files) (goal : Location) (node : Node) : Files :=
  let fs := if plan.keepsTimes then fs.changeAt goal (Files.datedTo node.modified) else fs
  if plan.mode = some true then fs.changeAt goal (Files.withMode node.mode) else fs

/-- Where a new node is put. -/
def newPlace? (fs : Files) (path : Text) : Except SysError Location :=
  if path.getLast? = some '/' then .error .notDirectory else fs.newPlace path

/-- Copies what a file holds to a place where nothing or a file stands. -/
def copyData (plan : Plan) (p : Process) (w : Work) (j : Job) (data : Bytes) (isNew : Bool) :
    Work :=
  let fault (e : SysError) : Work :=
    w.complain p ("cannot create regular file " ++ Quoting.always j.target ++ ": " ++ e.reason)
  let isDangling := match w.files.namedNode j.target with
    | .ok (_, .link ..) => (targetAt w.files j.target).isOk == false
    | _ => false
  if isNew then
    if isDangling then
      w.complain p ("not writing through dangling symlink " ++ Quoting.always j.target)
    else
      match newPlace? w.files j.target with
      | .error e => fault e
      | .ok goal =>
        let fs := w.files.put goal (.file data (traitsOf plan w.files j.node))
        { w.withFiles fs with made := goal :: w.made }
  else
    match w.files.writable j.target with
    | .error e => fault e
    | .ok goal =>
      let fs := if plan.kind = .nothing then w.files else w.files.modifyAt goal fun _ => data
      { w.withFiles (withKept plan fs goal j.node) with made := goal :: w.made }

/-- Puts a node at a new place, or says why there cannot be one. -/
def placeNode (p : Process) (w : Work) (j : Job) (what : Text) (node : Node) : Work :=
  match newPlace? w.files j.target with
  | .error e => w.complain p ("cannot create " ++ what ++ ": " ++ e.reason)
  | .ok goal => { w.withFiles (w.files.put goal node) with made := goal :: w.made }

/-- The work without what stands at the target. -/
def withoutTarget (w : Work) (j : Job) (isNew : Bool) : Work :=
  if isNew then w
  else
    match w.files.removeFile j.target with
    | .ok fs => w.withFiles fs
    | .error _ => w

/-- Copies a node that is no directory, to a place where nothing stands that may not be replaced. -/
def copyLeaf (plan : Plan) (p : Process) (w : Work) (j : Job) (isNew : Bool) : Work :=
  let earlier? : Option Location :=
    if plan.keepsLinks && Files.sharedNumber j.node != 0 then
      w.shared.lookup (Files.sharedNumber j.node)
    else none
  let w := if plan.keepsLinks && Files.sharedNumber j.node != 0 && earlier?.isNone then
      match w.files.newPlace j.target with
      | .ok goal => { w with shared := (Files.sharedNumber j.node, goal) :: w.shared }
      | .error _ => w
    else w
  let link (loc : Location) : Work :=
    let (fs, node) := withShared w.files loc
    placeNode p (withoutTarget (w.withFiles fs) j isNew) j
      ("hard link " ++ both j.target " to " j.source) node
  match earlier? with
  | some loc => link loc
  | none =>
    match plan.kind, j.node with
    | .symbolicLink, _ =>
      let isHere := !j.target.contains '/'
      if !Path.isAbsolute j.source && !isHere then
        w.complain p
          (Quoting.ifNeeded j.target ++
            ": can make relative symbolic links only in current directory")
      else if !isNew && !plan.force then
        w.complain p
          ("cannot create symbolic link " ++ both j.target " to " j.source ++ ": " ++
            SysError.present.reason)
      else
        placeNode p (withoutTarget w j isNew) j ("symbolic link " ++ both j.target " to " j.source)
          (.link j.source w.files.now)
    | .hardLink, _ =>
      if !isNew && !plan.removes && !plan.force then
        w.complain p
          ("cannot create hard link " ++ both j.target " to " j.source ++ ": " ++
            SysError.present.reason)
      else link j.loc
    | _, .link target t =>
      placeNode p (withoutTarget w j isNew) j ("symbolic link " ++ Quoting.always j.target)
        (.link target (if plan.keepsTimes then t else w.files.now))
    | .nothing, _ => copyData plan p w j [] isNew
    | _, .file data _ => copyData plan p w j data isNew
    | _, _ => copyData plan p w j ((readFile p j.source).toOption.getD []) isNew

/-! ### What stands there -/

/-- What stands at the target: nothing, or a node; `none` if that cannot be told. -/
def standing (plan : Plan) (fs : Files) (j : Job) (isNew : Bool) :
    Except SysError (Option (Location × Node)) :=
  let isFile := match j.node with
    | .file .. | .device _ => true
    | _ => false
  let looksAtLink := !isFile || plan.moves || plan.kind == .symbolicLink ||
    plan.kind == .hardLink || plan.backup != .none || plan.removes
  if isNew && !looksAtLink then .ok none
  else
    match (if looksAtLink then nodeAt fs j.target else targetAt fs j.target) with
    | .ok found => .ok (some found)
    | .error .notFound => .ok none
    | .error e => .error e

/-- What keeps a node from being put in the place of another. -/
def clash? (plan : Plan) (w : Work) (j : Job) (goal : Location) (old : Node) : Option Text :=
  if !old.isDir && j.node.isDir && !(plan.moves && plan.backup != .none) then
    some ("cannot overwrite non-directory " ++ both j.target " with directory " j.source)
  else if !old.isDir && j.isOperand && j.several && plan.backup != .numbered &&
      w.made.contains goal then
    some ("will not overwrite just-created " ++ both j.target " with " j.source)
  else if !j.node.isDir && old.isDir && !(plan.moves && plan.backup != .none) then
    some ("cannot overwrite directory " ++ Quoting.always j.target ++ " with non-directory")
  else none

/-- What stands there is moved away for a backup, or removed, if that is asked for; with what is put
behind the name of the backup, and whether nothing stands there any more. -/
def cleared (plan : Plan) (w : Work) (j : Job) (goal : Location) (old : Node) :
    Work × Option Text × Bool :=
  let base := lastPart j.source
  let isDots := base = ['.'] ∨ base = ['.', '.']
  if plan.backup != .none && !isDots && (plan.moves || !old.isDir) then
    let ending := backupEnding w.files plan.backup plan.suffix goal
    (w.withFiles (w.files.move goal (withEnding goal ending)), some ending, true)
  else if !old.isDir && !plan.moves &&
      (plan.removes || (plan.keepsLinks && Files.sharedNumber old != 0) ||
        (plan.follow == .never && (match j.node with
          | .link .. => true
          | _ => false))) then
    let w := w.withFiles (w.files.remove goal)
    (w.tell plan.tells ("removed " ++ Quoting.always j.target), none, true)
  else (w, none, false)

/-- The backup of a target would be the source. -/
def wouldBackUpSource (plan : Plan) (fs : Files) (j : Job) (goal : Location) : Bool :=
  plan.backup != .none && plan.backup != .numbered &&
    sameFile fs j.loc (withEnding goal plan.suffix) &&
    lastPart j.source == lastPart j.target ++ plan.suffix

/-- Goes on with what stands at the target: says no, has nothing left to do, or makes room. -/
def settled (plan : Plan) (p : Process) (w : Work) (j : Job) (goal : Location) (old : Node) :
    Except Work (Work × Option Text × Bool) := do
  match verdict plan w.files j.source j.target j.loc goal with
  | .same =>
    throw (w.complain p (both j.source " and " j.target ++ " are the same file"))
  | found =>
    if plan.update && !j.node.isDir && decide (j.node.modified ≤ old.modified) then throw w
    if !j.node.isDir || plan.moves then
      if plan.existing = .skip then throw w
      if plan.existing = .ask then
        let (progress, yes) := w.progress.ask p ("overwrite " ++ Quoting.always j.target)
        if !yes then throw { w with progress := { progress with failed := true } }
        else
          let w := { w with progress }
          if found = .finished then throw w
          match clash? plan w j goal old with
          | some t => throw (w.complain p t)
          | none => return cleared plan w j goal old
    if found = .finished then throw w
    match clash? plan w j goal old with
    | some t => throw (w.complain p t)
    | none =>
      if wouldBackUpSource plan w.files j goal then
        throw (w.complain p ("backing up " ++ Quoting.always j.target ++
          " might destroy source;  " ++ Quoting.always j.source ++
          (if plan.moves then " not moved" else " not copied")))
      return cleared plan w j goal old

/-- The node of a name in a directory, as it is to be copied. -/
def childNode (plan : Plan) (fs : Files) (path : Text) (loc : Location) (node : Node) :
    Except SysError (Location × Node) :=
  match node, plan.follow with
  | .link .., .always => targetAt fs path
  | _, _ => .ok (loc, node)

/-- Copies a directory, with what copies the nodes in it. -/
def copyDir (plan : Plan) (p : Process) (w : Work) (j : Job) (isNew : Bool)
    (copy : Work → Job → Work) : Work :=
  let earlier? := w.dirs.lookup j.loc
  let goal? := if isNew then w.files.newPlace (Files.bare j.target)
    else (nodeAt w.files j.target).map (·.1)
  match goal? with
  | .error e =>
    w.complain p ("cannot create directory " ++ Quoting.always j.target ++ ": " ++ e.reason)
  | .ok goal =>
    let isWithin := earlier?.any fun l => l == j.loc
    if isWithin then
      w.complain p ("cannot copy a directory, " ++ both j.top.1 ", into itself, " j.top.2)
    else if j.isOperand && earlier? == some goal then
      w.warn p ("warning: source directory " ++ Quoting.always j.top.1 ++
        " specified more than once")
    else
      let w := if j.isOperand then { w with dirs := (j.loc, goal) :: w.dirs } else w
      let w :=
        if isNew then
          let fs := w.files.put goal (.dir (traitsOf plan w.files j.node))
          let isFirst := !(w.dirs.any fun e => e.1 == e.2)
          { (w.withFiles fs).tell plan.tells (line j none) with
            dirs := if isFirst then (goal, goal) :: w.dirs else w.dirs }
        else w
      let w := (w.files.children j.loc).foldl
        (fun w (name, node) =>
          let source := Path.join j.source name
          match childNode plan w.files source (j.loc ++ [name]) node with
          | .error e => w.complain p ("cannot stat " ++ Quoting.always source ++ ": " ++ e.reason)
          | .ok (loc, node) =>
            copy w
              { j with source, loc, node, target := Path.join j.target name, isOperand := false })
        w
      w.withFiles (withKept plan w.files goal j.node)

/-- Copies a node; at most `n` levels of directories. -/
def copyNode (plan : Plan) (p : Process) : Nat → Bool → Work → Job → Work
  | 0, _, w, _ => w
  | n + 1, isNew, w, j =>
    if j.node.isDir && !plan.recursive then
      w.complain p ("-r not specified; omitting directory " ++ Quoting.always j.source)
    else if j.isOperand && j.several && !j.node.isDir && plan.backup == .none &&
        w.seen.contains j.loc then
      w.warn p ("warning: source file " ++ Quoting.always j.source ++ " specified more than once")
    else
      let w := if j.isOperand then { w with seen := j.loc :: w.seen } else w
      let proceed (w : Work) (ending : Option Text) (isNew : Bool) : Work :=
        if j.node.isDir then copyDir plan p w j isNew (copyNode plan p n false)
        else
          let w := w.tell plan.tells (line j ending)
          copyLeaf plan p w j isNew
      match standing plan w.files j isNew with
      | .error e => w.complain p ("cannot stat " ++ Quoting.always j.target ++ ": " ++ e.reason)
      | .ok none => proceed w none true
      | .ok (some (goal, old)) =>
        match settled plan p w j goal old with
        | .error w => w
        | .ok (w, ending, isNew) => proceed w ending isNew

/-- Copies what an operand names. -/
def copyOperand (plan : Plan) (p : Process) (several isNew : Bool) (w : Work)
    (pair : Text × Text) : Work :=
  let (source, target) := pair
  match (if plan.follow = .never then nodeAt w.files source else targetAt w.files source) with
  | .error e => w.complain p ("cannot stat " ++ Quoting.always source ++ ": " ++ e.reason)
  | .ok (loc, node) =>
    let w := { w with dirs := w.dirs.filter fun e => e.1 != e.2 }
    copyNode plan p (w.files.nodes.length + 2) isNew w
      { source, loc, node, target, top := pair, isOperand := true, several }

/-! ### With the directories on the way -/

/-- Makes the directories on the way to a source in another one. -/
def makeWay (plan : Plan) (p : Process) (dir : Text) (w : Work) (source : Text) : Work × Bool :=
  let parts := (Text.cut (· == '/') source).filter fun t => !t.isEmpty
  let ways := (List.range (parts.length - 1)).map fun n =>
    ['/'].intercalate (parts.take (n + 1))
  ways.foldl
    (fun (w, goesOn) way =>
      let target := Path.join dir way
      if !goesOn || w.files.isDir target then (w, goesOn)
      else
        match w.files.locateWhole way, w.files.makeDir target with
        | .error e, _ =>
          (w.complain p ("failed to get attributes of " ++ Quoting.always way ++ ": " ++ e.reason),
            false)
        | _, .error e =>
          (w.complain p ("cannot make directory " ++ Quoting.always target ++ ": " ++ e.reason),
            false)
        | .ok _, .ok fs =>
          ((w.withFiles fs).tell plan.tells
            (Quoting.ifNeeded way ++ " -> " ++ Quoting.ifNeeded target), true))
    (w, true)

/-! ### The options -/

/-- The words for what is kept. -/
def keptWords : List (String × Char) :=
  [("mode", 'm'), ("timestamps", 't'), ("ownership", 'o'), ("links", 'l'), ("context", 'c'),
    ("xattr", 'x'), ("all", 'a')]

/-- The words for which files are updated. -/
def updateWords : List (String × Char) := [("all", 'a'), ("none", 'n'), ("older", 'o')]

/-- The plan with something kept, or not. -/
def Plan.keeping (plan : Plan) (keeps : Bool) (c : Char) : Plan :=
  match c with
  | 'm' => { plan with mode := some keeps }
  | 't' => { plan with keepsTimes := keeps }
  | 'l' => { plan with keepsLinks := keeps }
  | 'a' => { plan with mode := some keeps, keepsTimes := keeps, keepsLinks := keeps }
  | _ => plan

/-- The plan with what the words between commas say. -/
def Plan.keepingWords (p : Process) (option : String) (keeps : Bool) (plan : Plan) (t : Text) :
    Except Aftermath Plan :=
  (Text.cut (· == ',') t).foldlM
    (fun plan word => (choose p option keptWords word).map (plan.keeping keeps)) plan

/-- The plan with one more option. -/
def Plan.with (p : Process) (plan : Plan) (option : Char × Text) : Except Aftermath Plan :=
  match option with
  | ('a', _) =>
    .ok { plan.keeping true 'a' with recursive := true, follow := .never }
  | ('d', _) => .ok { plan with follow := .never, keepsLinks := true }
  | ('P', _) => .ok { plan with follow := .never }
  | ('L', _) => .ok { plan with follow := .always }
  | ('H', _) => .ok { plan with follow := .operands }
  | ('r', _) => .ok { plan with recursive := true }
  | ('R', _) => .ok { plan with recursive := true }
  | ('i', _) => .ok { plan with existing := .ask }
  | ('n', _) => .ok { plan with existing := .skip }
  | ('f', _) =>
    .ok (if plan.moves then { plan with existing := .replace } else { plan with force := true })
  | ('u', _) => .ok { plan with update := true }
  | ('υ', word) =>
    if word.isEmpty then .ok { plan with update := true }
    else
      (choose p "update" updateWords word).map fun c =>
        if c = 'n' then { plan with existing := .skip } else { plan with update := c == 'o' }
  | ('p', _) => .ok ((plan.keeping true 'm').keeping true 't')
  | ('π', word) =>
    if word.isEmpty then .ok ((plan.keeping true 'm').keeping true 't')
    else plan.keepingWords p "preserve" true word
  | ('κ', word) => plan.keepingWords p "no-preserve" false word
  | ('l', _) => .ok { plan with kind := .hardLink }
  | ('s', _) => .ok { plan with kind := .symbolicLink }
  | ('α', _) => .ok { plan with kind := .nothing }
  | ('ρ', _) => .ok { plan with removes := true }
  | ('v', _) => .ok { plan with tells := true }
  | _ => .ok plan

/-- The plan that options make. -/
def plan (p : Process) (a : Asked) (start : Plan) : Except Aftermath Plan := do
  let plan ← a.options.foldlM (Plan.with p) start
  let backup ← Targets.backup p a 'β'
  if backup != .none && a.has 'n' then
    failMisused p 1 "options --backup and --no-clobber are mutually exclusive"
  if plan.kind = .hardLink ∧ a.has 's' ∨ plan.kind = .symbolicLink ∧ a.has 'l' then
    failMisused p 1 "cannot make both hard and symbolic links"
  let chosen := a.lastOf "adHLP"
  let follow : Follow :=
    if chosen.isSome || plan.moves then plan.follow
    else if plan.recursive && plan.kind != .hardLink then .never
    else .always
  return { plan with backup, suffix := Targets.suffix p a, follow }

/-- The options of `cp`. -/
def letters : Letters :=
  { plain := "abdfHilLnprRPsTuvxZαζμσρ", valued := "Stκ", loose := "βυπξω"
    usage := "[OPTION]... [-T] SOURCE DEST"
    long := [("archive", 'a'), ("attributes-only", 'α'), ("backup", 'β'),
      ("copy-contents", 'ζ'), ("debug", 'v'), ("dereference", 'L'), ("force", 'f'),
      ("interactive", 'i'), ("link", 'l'), ("no-clobber", 'n'), ("no-dereference", 'P'),
      ("no-preserve", 'κ'), ("no-target-directory", 'T'), ("one-file-system", 'x'),
      ("parents", 'μ'), ("path", 'μ'), ("preserve", 'π'), ("recursive", 'r'),
      ("remove-destination", 'ρ'), ("sparse", 'ξ'), ("reflink", 'ω'),
      ("strip-trailing-slashes", 'σ'), ("suffix", 'S'), ("symbolic-link", 's'),
      ("target-directory", 't'), ("update", 'υ'), ("verbose", 'v'), ("context", 'Z')] }

/-- Copies what operands name. -/
def run (p : Process) (a : Asked) : Except Aftermath Aftermath := do
  let plan ← plan p a {}
  let wanted ← Targets.wanted p a false
  let wanted := if a.has 'σ' && wanted.into then
      { wanted with sources := wanted.sources.map withoutSlashes }
    else wanted
  let several := 1 < wanted.sources.length
  if a.has 'μ' && !wanted.into then
    failMisused p 1 "with --parents, the destination must be a directory"
  let start : Work := { progress := .start p }
  let step (w : Work) (pair : Text × Text) : Work :=
    if a.has 'μ' then
      let source := withoutSlashes pair.1
      let (w, goesOn) := makeWay plan p wanted.target w source
      if goesOn then
        copyOperand plan p several false w (pair.1, Path.join wanted.target source)
      else w
    else copyOperand plan p several wanted.isNew w pair
  return (wanted.pairs.foldl step start).progress.done p

/-! ### Moving -/

/-- Moves a node to a place where it may stand. -/
def moveTo (plan : Plan) (p : Process) (w : Work) (j : Job) (ending : Option Text) : Work :=
  let refused (e : SysError) : Work :=
    w.complain p ("cannot move " ++ both j.source " to " j.target ++ ": " ++ e.reason)
  if j.target.getLast? = some '/' ∧ !j.node.isDir then refused .notDirectory
  else
    match w.files.newPlace (Files.bare j.target) with
    | .error e => refused e
    | .ok goal =>
      if j.loc.isPrefixOf goal && j.node.isDir then
        w.complain p
          ("cannot move " ++ both j.top.1 " to a subdirectory of itself, " j.top.2)
      else if j.node.isDir && !(w.files.children goal).isEmpty then
        w.complain p
          ("cannot overwrite " ++ Quoting.always j.target ++ ": " ++ SysError.notEmpty.reason)
      else
        { (w.withFiles (w.files.move j.loc goal)).tell plan.tells ("renamed " ++ line j ending) with
          made := goal :: w.made }

/-- Moves what an operand names. -/
def moveOperand (plan : Plan) (p : Process) (several : Bool) (w : Work) (pair : Text × Text) :
    Work :=
  let (source, target) := pair
  match nodeAt w.files source with
  | .error e => w.complain p ("cannot stat " ++ Quoting.always source ++ ": " ++ e.reason)
  | .ok (loc, node) =>
    let j : Job := { source, loc, node, target, top := pair, isOperand := true, several }
    let base := lastPart source
    if node.isDir && (base = ['.'] || base = ['.', '.'] || loc = []) then
      w.complain p
        ("cannot move " ++ both source " to " target ++ ": " ++ SysError.busy.reason)
    else
      match nodeAt w.files target with
      | .error _ => moveTo plan p w j none
      | .ok (goal, old) =>
        match settled plan p w j goal old with
        | .error w => w
        | .ok (w, ending, _) => moveTo plan p w j ending

/-- The options of `mv`. -/
def moveLetters : Letters :=
  { plain := "bfinTuvZσδ", valued := "St", loose := "βυ"
    usage := "[OPTION]... [-T] SOURCE DEST"
    long := [("backup", 'β'), ("context", 'Z'), ("debug", 'v'), ("force", 'f'),
      ("interactive", 'i'), ("no-clobber", 'n'), ("no-copy", 'δ'), ("no-target-directory", 'T'),
      ("strip-trailing-slashes", 'σ'), ("suffix", 'S'), ("target-directory", 't'),
      ("update", 'υ'), ("verbose", 'v')] }

/-- Moves what operands name. -/
def runMoves (p : Process) (a : Asked) : Except Aftermath Aftermath := do
  let plan ← plan p a { moves := true, follow := .never, recursive := true }
  let wanted ← Targets.wanted p a false
  let wanted := if a.has 'σ' then { wanted with sources := wanted.sources.map withoutSlashes }
    else wanted
  let several := 1 < wanted.sources.length
  let start : Work := { progress := .start p }
  return (wanted.pairs.foldl (moveOperand plan p several) start).progress.done p

end Copying

/-- Copies files and directories. -/
def cp : Tool := taking Copying.letters 1 fun p a => settle (Copying.run p a)

/-- Moves files and directories. -/
def mv : Tool := taking Copying.moveLetters 1 fun p a => settle (Copying.runMoves p a)

end AliasShell.Tools
