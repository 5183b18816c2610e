/-
Tools that make links, and tools that tell where they lead.
-/
import AliasShell.Machine.Tools.Targets

namespace AliasShell.Tools

namespace Linking

open Targets

/-- How links are made. -/
structure Plan where
  symbolic : Bool := false
  relative : Bool := false
  force : Bool := false
  asks : Bool := false
  tells : Bool := false
  /-- a link that is to be linked to is followed -/
  follows : Bool := false
  /-- the system is asked for links to directories -/
  directories : Bool := false
  backup : Backup := .none
  suffix : Text := ['~']
  deriving Repr, DecidableEq

/-- The parts of a path that leads from one directory to a place. -/
def partsBetween : Location → Location → List Text
  | x :: xs, y :: ys =>
    if x = y then partsBetween xs ys else (x :: xs).map (fun _ => ['.', '.']) ++ y :: ys
  | xs, ys => xs.map (fun _ => ['.', '.']) ++ ys

/-- The path from one directory to a place. -/
def pathBetween (dir loc : Location) : Text :=
  match partsBetween dir loc with
  | [] => ['.']
  | parts => ['/'].intercalate parts

/-- Goes along parts, those that lead nowhere being taken as they stand; at a link, `onLink` goes on
with its target and the rest. -/
def reachOn (fs : Files) (onLink : Location → List Text → Location) :
    Location → List Text → Location
  | loc, [] => loc
  | loc, part :: rest =>
    if part = ['.'] then reachOn fs onLink loc rest
    else if part = ['.', '.'] then reachOn fs onLink loc.dropLast rest
    else
      match fs.node? (loc ++ [part]) with
      | some (.link target _) =>
        onLink (if Path.isAbsolute target then [] else loc) (Path.parts target ++ rest)
      | _ => reachOn fs onLink (loc ++ [part]) rest

/-- Goes along parts with this many links left to follow. -/
def reachFrom (fs : Files) : Nat → Location → List Text → Location
  | 0 => reachOn fs fun loc parts => loc ++ parts
  | n + 1 => reachOn fs (reachFrom fs n)

/-- Where a path leads, parts that lead nowhere being taken as they stand. -/
def reached (fs : Files) (path : Text) : Location :=
  reachFrom fs Files.linkLimit (if Path.isAbsolute path then [] else fs.current) (Path.parts path)

/-- What a symbolic link holds. -/
def heldBy (plan : Plan) (fs : Files) (source target : Text) : Text :=
  if !plan.relative then source
  else
    let dir := (target.cutLast (· == '/')).map (·.1)
    let dir := match dir with
      | some [] => ['/']
      | some dir => dir
      | none => ['.']
    pathBetween (reached fs dir) (reached fs source)

/-- Two names with the sign of a link between them, behind that of a backup. -/
def line (plan : Plan) (target source : Text) (backup : Option Text) : Text :=
  let front := match backup with
    | some t => Quoting.always (target ++ t) ++ " ~ ".toList
    | none => []
  front ++ Quoting.always target ++ (if plan.symbolic then " -> " else " => ").toList ++
    Quoting.always source

/-- Why there is no link. -/
def failure (plan : Plan) (target source : Text) (e : SysError) : Text :=
  let kind : Text := if plan.symbolic then "symbolic" else "hard"
  let end_ : Text :=
    if plan.symbolic then (if source.isEmpty then " -> ".toList ++ Quoting.always source else [])
    else if e = .present then []
    else " => ".toList ++ Quoting.always source
  "failed to create " ++ kind ++ " link " ++ Quoting.always target ++ end_ ++ ": " ++ e.reason

/-- The links so far, and what is left to do. -/
abbrev Links := Progress × List Location

/-- Puts a link at its place. -/
def put (plan : Plan) (w : Links) (fs : Files) (goal : Location) (target source : Text)
    (loc? : Option Location) (backup : Option Text) : Links :=
  let fs := match loc? with
    | none => fs.put goal (.link source fs.now)
    | some loc =>
      let (fs, node) := withShared fs loc
      fs.put goal node
  ({ w.1 with files := fs }.tell plan.tells (line plan target source backup), goal :: w.2)

/-- Makes a link where something stands. -/
def replace (plan : Plan) (p : Process) (several : Bool) (w : Links) (goal : Location) (old : Node)
    (target source : Text) (loc? : Option Location) : Links :=
  let (progress, made) := w
  let fs := progress.files
  let refuse (t : Text) : Links := (progress.complain p t, made)
  let source? : Option Location :=
    loc?.orElse fun _ => (targetAt fs source).toOption.map Prod.fst
  let isOne := match source? with
    | some loc => sameFile fs loc goal && (loc == goal || fs.linkCount goal old == 1)
    | none => false
  if !(plan.force || plan.asks || plan.backup != .none) then
    refuse (failure plan target source .present)
  else if old.isDir then refuse (Quoting.ifNeeded target ++ ": cannot overwrite directory")
  else if several && made.contains goal then
    refuse ("will not overwrite just-created " ++ Quoting.always target ++ " with " ++
      Quoting.always source)
  else if isOne then
    refuse (Quoting.always source ++ " and " ++ Quoting.always target ++ " are the same file")
  else
    let (progress, yes) :=
      if plan.asks then progress.ask p ("replace " ++ Quoting.always target) else (progress, true)
    if !yes then ({ progress with failed := true }, made)
    else if plan.backup = .none then
      put plan (progress, made) (fs.remove goal) goal target source loc? none
    else
      let ending := backupEnding fs plan.backup plan.suffix goal
      put plan (progress, made) (fs.move goal (withEnding goal ending)) goal target source loc?
        (some ending)

/-- Makes one link. -/
def makeOne (plan : Plan) (p : Process) (several : Bool) (w : Links) (pair : Text × Text) : Links :=
  let (source, target) := pair
  let fs := w.1.files
  let refuse (t : Text) : Links := (w.1.complain p t, w.2)
  let found : Except SysError (Option (Location × Node)) :=
    if plan.symbolic then .ok none
    else (if plan.follows then targetAt fs source else nodeAt fs source).map some
  match found with
  | .error e => refuse ("failed to access " ++ Quoting.always source ++ ": " ++ e.reason)
  | .ok (some (_, .dir _)) =>
    if plan.directories then refuse (failure plan target source .notPermitted)
    else refuse (Quoting.ifNeeded source ++ ": hard link not allowed for directory")
  | .ok found =>
    let held := if plan.symbolic then heldBy plan fs source target else source
    let loc? := found.map (·.1)
    if plan.symbolic && held.isEmpty then refuse (failure plan target held .notFound)
    else
      match nodeAt fs target with
      | .ok (goal, old) => replace plan p several w goal old target held loc?
      | .error _ =>
        match (if target.getLast? = some '/' then .error .notFound else fs.newPlace target) with
        | .error e => refuse (failure plan target held e)
        | .ok goal => put plan w fs goal target held loc? none

/-- The options of `ln`. -/
def letters : Letters :=
  { plain := "bdFfiLnPrsTv", valued := "St", loose := "β"
    usage := "[OPTION]... [-T] TARGET LINK_NAME"
    long := [("backup", 'β'), ("directory", 'F'), ("no-dereference", 'n'),
      ("no-target-directory", 'T'), ("force", 'f'), ("interactive", 'i'), ("suffix", 'S'),
      ("target-directory", 't'), ("logical", 'L'), ("physical", 'P'), ("relative", 'r'),
      ("symbolic", 's'), ("verbose", 'v')] }

/-- What operands ask for, where a link to a directory may be taken as itself. -/
def wantedOf (p : Process) (a : Asked) : Except Aftermath Wanted := do
  let isSelf (path : Text) : Bool :=
    match p.files.namedNode path with
    | .ok (_, .link ..) => true
    | _ => false
  match a.operands.reverse with
  | [target, source] =>
    if a.has 'n' && isSelf target && !a.has 't' then return ⟨[source], target, false, false⟩
    else wanted p a true
  | _ => wanted p a true

/-- Makes the links that are asked for. -/
def run (p : Process) (a : Asked) : Except Aftermath Aftermath := do
  let backup ← Targets.backup p a 'β'
  let plan : Plan :=
    { symbolic := a.has 's'
      relative := a.has 'r'
      force := a.lastOf "fi" = some 'f'
      asks := a.lastOf "fi" = some 'i'
      tells := a.has 'v'
      follows := a.lastOf "LP" = some 'L'
      directories := a.hasAny "dF"
      backup
      suffix := Targets.suffix p a }
  if plan.relative && !plan.symbolic then
    failWith p 1 "cannot do --relative without --symbolic"
  if let some dir := a.value? 't' then
    match targetAt p.files dir with
    | .error e =>
      failWith p 1 ("failed to access ".toList ++ Quoting.always dir ++ ": ".toList ++ e.reason)
    | .ok (_, node) =>
      if !node.isDir then
        failWith p 1 ("target ".toList ++ Quoting.always dir ++ " is not a directory".toList)
  let wanted ← wantedOf p a
  let several := 1 < wanted.sources.length
  let (progress, _) := wanted.pairs.foldl (makeOne plan p several) (Progress.start p, [])
  return progress.done p

end Linking

/-- Makes links. -/
def ln : Tool := taking Linking.letters 1 fun p a => settle (Linking.run p a)

/-- Makes one link to a file. -/
def link : Tool :=
  taking { plain := [], usage := "FILE1 FILE2" } 1 fun p a =>
    match a.operands with
    | [] => misused p 1 "missing operand"
    | [name] => misused p 1 ("missing operand after " ++ Quoting.cited name)
    | [source, target] =>
      let fault (e : SysError) : Aftermath :=
        p.refuse 1 ("cannot create link " ++ Quoting.always target ++ " to " ++
          Quoting.always source ++ ": " ++ e.reason)
      match nodeAt p.files source with
      | .error e => fault e
      | .ok (loc, node) =>
        if node.isDir then fault .notPermitted
        else
          let (fs, node) := Targets.withShared p.files loc
          match fs.makeNode target node with
          | .ok files => { p.quit 0 with files }
          | .error e => fault e
    | _ :: _ :: t :: _ => misused p 1 ("extra operand " ++ Quoting.cited t)

/-! ### Where they lead -/

namespace Linking

/-- How much of a path has to be there. -/
inductive Presence where
  | all
  | butLast
  | none
  deriving Repr, DecidableEq

/-- The place that a path leads to, with as much of it there as is needed.  Without links, `..` only
takes away what stands before it. -/
def lead (fs : Files) (presence : Presence) (path : Text) : Except SysError Location :=
  match presence with
  | .all => fs.locateWhole path
  | .none => if path.isEmpty then .error .notFound else .ok (reached fs path)
  | .butLast =>
    match fs.locateWhole path with
    | .ok loc => .ok loc
    | .error .notFound =>
      if path.isEmpty then .error .notFound else behind fs Files.linkLimit (Files.bare path)
    | .error e => .error e
where
  /-- The place of a path whose last part is not there; at most `n` links are followed. -/
  behind (fs : Files) : Nat → Text → Except SysError Location
    | 0, _ => .error .tooManyLinks
    | n + 1, path =>
      match fs.newPlace path with
      | .error e => .error e
      | .ok loc =>
        match fs.node? loc with
        | some (.link target _) =>
          behind fs n (Files.bare (Path.join (Path.ofLocation loc.dropLast) target))
        | _ => .ok loc

/-- The path with `.` and `..` taken out of it, and links left alone. -/
def textual (fs : Files) (path : Text) : Text :=
  let start := if Path.isAbsolute path then [] else fs.current
  Path.ofLocation ((Path.parts path).foldl
    (fun loc part =>
      if part = ['.'] then loc else if part = ['.', '.'] then loc.dropLast else loc ++ [part])
    start)

end Linking

/-- What links hold, or where paths lead. -/
def readlink : Tool :=
  taking
    { plain := "efmnqsvz", usage := "[OPTION]... FILE..."
      long := [("canonicalize", 'f'), ("canonicalize-existing", 'e'),
        ("canonicalize-missing", 'm'), ("no-newline", 'n'), ("quiet", 'q'), ("silent", 's'),
        ("verbose", 'v'), ("zero", 'z')] }
    1 fun p a =>
      if a.operands.isEmpty then misused p 1 "missing operand"
      else
        let found (name : Text) : Except SysError Text :=
          match a.lastOf "efm" with
          | some 'e' => (Linking.lead p.files .all name).map Path.ofLocation
          | some 'f' => (Linking.lead p.files .butLast name).map Path.ofLocation
          | some _ => (Linking.lead p.files .none name).map Path.ofLocation
          | none =>
            match nodeAt p.files name with
            | .ok (_, .link t _) => .ok t
            | .ok _ => .error .invalid
            | .error e => .error e
        let ignoresEnd := a.has 'n' && 1 < a.operands.length
        let lineEnd : Text :=
          if a.has 'n' && !ignoresEnd then [] else if a.has 'z' then ['\x00'] else ['\n']
        let start := if ignoresEnd then
            (Progress.start p).warn p "ignoring --no-newline with multiple arguments"
          else .start p
        let isVerbose := a.lastOf "qsv" = some 'v'
        let step (w : Progress) (name : Text) : Progress :=
          match found name with
          | .ok t => { w with transcript := w.transcript ++ [(.output, Text.bytes (t ++ lineEnd))] }
          | .error e =>
            if isVerbose then w.complain p (fileFault name e) else { w with failed := true }
        (a.operands.foldl step start).done p

/-- Where paths lead. -/
def realpath : Tool :=
  taking
    { plain := "eELPmqsz", valued := "τβ", usage := "[OPTION]... FILE..."
      long := [("canonicalize-existing", 'e'), ("canonicalize-missing", 'm'),
        ("canonicalize", 'E'), ("relative-to", 'τ'), ("relative-base", 'β'), ("quiet", 'q'),
        ("strip", 's'), ("no-symlinks", 's'), ("zero", 'z'), ("logical", 'L'),
        ("physical", 'P')] }
    1 fun p a =>
      if a.operands.isEmpty then misused p 1 "missing operand"
      else
        let presence : Linking.Presence := match a.lastOf "emE" with
          | some 'e' => .all
          | some 'm' => .none
          | _ => .butLast
        let leads (name : Text) : Except SysError Text :=
          if a.has 's' then
            (Linking.lead p.files presence name).map fun _ => Linking.textual p.files name
          else if a.has 'L' then
            (Linking.lead p.files presence (Linking.textual p.files name)).map Path.ofLocation
          else (Linking.lead p.files presence name).map Path.ofLocation
        let base (letter : Char) : Except Aftermath (Option Text) :=
          match a.value? letter with
          | none => .ok none
          | some dir =>
            match leads dir with
            | .ok t =>
              if presence = .all && !p.files.isDir t then
                failWith p 1 (fileFault dir .notDirectory)
              else .ok (some t)
            | .error e => failWith p 1 (fileFault dir e)
        let parts (t : Text) : Location := (Text.cut (· == '/') t).filter fun part => !part.isEmpty
        let lineEnd := if a.has 'z' then '\x00' else '\n'
        settle do
          let start? ← base 'τ'
          let base? ← base 'β'
          let isBelow (dir t : Text) : Bool := (parts dir).isPrefixOf (parts t)
          let start? := match start?, base? with
            | some dir, some above => if isBelow above dir then some dir else none
            | none, some above => some above
            | dir, none => dir
          let limit? := if start?.isSome then base? else none
          let told (t : Text) : Text :=
            match start? with
            | none => t
            | some dir =>
              if limit?.all fun above => isBelow above t then
                Linking.pathBetween (parts dir) (parts t)
              else t
          let step (w : Progress) (name : Text) : Progress :=
            match leads name with
            | .ok t =>
              { w with transcript :=
                w.transcript ++ [(.output, Text.bytes (told t ++ [lineEnd]))] }
            | .error e =>
              if a.has 'q' then { w with failed := true } else w.complain p (fileFault name e)
          return (a.operands.foldl step (.start p)).done p

end AliasShell.Tools
