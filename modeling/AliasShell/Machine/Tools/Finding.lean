/-
The tool that walks through trees of files and holds an expression against each one.

A directory comes before what is in it, or after that if so asked.  What is in a directory is read
when the tree is entered there, so a file can be gone by the time that it is its turn.
-/
import AliasShell.Machine.Tools.Finding.Reader
import AliasShell.Machine.Tools.Starting

namespace AliasShell.Tools

namespace Finding

/-- How far a search has come. -/
structure Trail where
  work : Progress
  /-- the files that commands have gathered, and where these are to run -/
  gathered : List (Command × Location × List Text) := []
  /-- nothing below the file is looked at -/
  pruned : Bool := false
  /-- nothing else is looked at -/
  finished : Bool := false
  /-- it was complained about that this file is gone -/
  missed : Bool := false
  /-- how deep the last file was -/
  level : Nat := 0

namespace Trail

/-- The trail with other work. -/
def doing (t : Trail) (f : Progress → Progress) : Trail := { t with work := f t.work }

/-- Complains about a file. -/
def complain (t : Trail) (p : Process) (path reason : Text) : Trail :=
  t.doing (·.complain p (Quoting.cited path ++ ": " ++ reason))

/-- The file is gone. -/
def miss (t : Trail) (p : Process) (v : Visit) : Trail :=
  if t.missed then t
  else { t.complain p v.path SysError.notFound.reason with missed := true }

end Trail

/-! ### Actions -/

/-- Writes something. -/
def put (sink : Sink) (text : Text) (w : Progress) : Progress :=
  match sink with
  | .output => { w with transcript := w.transcript ++ [(.output, Text.bytes text)] }
  | .errors => { w with transcript := w.transcript ++ [(.errors, Text.bytes text)] }
  | .file path =>
    match w.files.modify path (· ++ Text.bytes text) with
    | .ok files => { w with files }
    | .error _ => w

/-- Starts a program, and says whether it ended well. -/
def launch (start : Starter) (p : Process) (folder : Location) (words : List Text) (w : Progress) :
    Progress × Bool :=
  match words with
  | [] => (w, false)
  | name :: args =>
    let q := { p with
      name, args
      files := { w.files with current := folder }
      input := w.input
      position := p.position.map (· + (p.input.length - w.input.length)) }
    match Search.startNamed start q with
    | .error e => (w.warn p (Quoting.cited name ++ ": " ++ e.reason), false)
    | .ok a =>
      let w := { w with
        files := { a.files with current := w.files.current }
        input := a.input
        transcript := w.transcript ++ a.transcript }
      match a.ending with
      | .exited code => (w, code == 0)
      | .killed n =>
        (w.warn p (Quoting.cited name ++ " terminated by signal " ++ Integer.digits n), false)

/-- Where a command runs for a file, and what it calls the file. -/
def placeFor (fs : Files) (c : Command) (v : Visit) : Location × Text :=
  if c.inFolder then
    let folder := if v.folder.isEmpty then ['/'] else v.folder
    (((fs.locate folder).toOption).getD fs.current,
      if v.name = ['/'] then v.name else "./" ++ v.ending)
  else (fs.current, v.path)

/-- Asks whether a command is to run, and says whether the answer is yes. -/
def asked (c : Command) (v : Visit) (w : Progress) : Progress × Bool :=
  let answer := w.input.takeWhile (· != 10)
  let question : Text :=
    "< ".toList ++ (c.words.head?).getD [] ++ " ... ".toList ++ v.path ++ " > ? ".toList
  ({ put .errors question w with input := w.input.drop (answer.length + 1) },
    (answer.head?).any fun b => b == 121 || b == 89)

/-- Runs the commands that have gathered files, all of them or those that run where the files are.
-/
def flush (start : Starter) (p : Process) (all : Bool) (t : Trail) : Trail :=
  let (due, later) := t.gathered.partition fun (c, _, _) => all || c.inFolder
  due.foldl
    (fun t (c, folder, paths) =>
      let (w, isGood) := launch start p folder (c.words ++ paths) t.work
      { t with work := { w with failed := w.failed || !isGood } })
    { t with gathered := later }

/-- A file more for a command that gathers them. -/
def gather (c : Command) (folder : Location) (path : Text) :
    List (Command × Location × List Text) → List (Command × Location × List Text)
  | [] => [(c, folder, [path])]
  | (d, place, paths) :: more =>
    if d.number = c.number ∧ place = folder then (d, place, paths ++ [path]) :: more
    else (d, place, paths) :: gather c folder path more

/-- Removes a file, or a directory with nothing in it. -/
def delete (p : Process) (v : Visit) (t : Trail) : Trail × Bool :=
  let refused (e : SysError) : Trail × Bool :=
    (t.doing (·.complain p ("cannot delete " ++ Quoting.cited v.path ++ ": " ++ e.reason)), false)
  let fs := t.work.files
  if v.name = ['.'] then (t, true)
  else
    match fs.node? v.loc with
    | none => refused .notFound
    | some node =>
      if node.isDir && !(fs.children v.loc).isEmpty then refused .notEmpty
      else (t.doing fun w => { w with files := fs.remove v.loc }, true)

/-- Does something with a file, and says whether that holds. -/
def act (start : Starter) (p : Process) (v : Visit) (t : Trail) : Action → Trail × Bool
  | .write sink text => (t.doing (put sink (text t.work.files v)), true)
  | .prune => ({ t with pruned := true }, true)
  | .quit => ({ t with finished := true }, true)
  | .delete => delete p v t
  | .run c =>
    let (folder, path) := placeFor t.work.files c v
    if c.gathers then ({ t with gathered := gather c folder path t.gathered }, true)
    else
      let (w, goesOn) := if c.asks then asked c v t.work else (t.work, true)
      if !goesOn then ({ t with work := w }, false)
      else
        let words := c.words.map fun word => replaced "\x7b\x7d" path word.length word
        let (w, isGood) := launch start p folder words w
        ({ t with work := w }, isGood)

/-- Holds an expression against a file.  Nothing more is done once the search is finished. -/
def judge (start : Starter) (p : Process) (v : Visit) : Expression → Trail → Trail × Bool
  | .test looks holds, t =>
    if looks && (t.work.files.node? v.loc).isNone then (t.miss p v, false)
    else (t, holds t.work.files v)
  | .act a, t => if t.finished then (t, false) else act start p v t a
  | .not e, t =>
    let (t, truth) := judge start p v e t
    (t, !truth)
  | .join .and a b, t =>
    let (t, truth) := judge start p v a t
    if truth then judge start p v b t else (t, false)
  | .join .or a b, t =>
    let (t, truth) := judge start p v a t
    if truth then (t, true) else judge start p v b t
  | .join .after a b, t => judge start p v b (judge start p v a t).1

/-! ### Walking -/

/-- The file that a path leads to.  A link that leads nowhere is taken for itself. -/
def reached (fs : Files) (follows : Bool) (path : Text) : Except SysError (Location × Node) :=
  if follows then
    match targetAt fs path with
    | .ok found => .ok found
    | .error .tooManyLinks => .error .tooManyLinks
    | .error _ => nodeAt fs path
  else nodeAt fs path

/-- The file as it is by now; one that is gone is as it was. -/
def current (fs : Files) (follow : Follow) (v : Visit) : Except SysError Visit :=
  match fs.node? v.loc with
  | none => .ok v
  | some node =>
    match node, follow with
    | .link .., .always =>
      (reached fs true v.path).map fun (loc, node) => { v with loc, node }
    | _, _ => .ok { v with node }

/-- The path of a name in a directory. -/
def within (folder name : Text) : Text :=
  if folder.getLast? = some '/' then folder ++ name else folder ++ '/' :: name

/-- The files in a directory. -/
def inside (fs : Files) (v : Visit) : List Visit :=
  (fs.children v.loc).map fun (name, node) =>
    { v with path := within v.path name, depth := v.depth + 1, loc := v.loc ++ [name], node }

/-- Notes how deep a file is.  Commands that run where files are do so before the depth changes. -/
def enter (start : Starter) (p : Process) (level : Nat) (t : Trail) : Trail :=
  let t := if t.level = level then t else flush start p false t
  { t with level, missed := false, pruned := false }

/-- Walks through a tree of at most `n` levels; `above` are the directories that lead there. -/
def walk (start : Starter) (p : Process) (plan : Plan) :
    Nat → List (Location × Text) → Visit → Trail → Trail
  | 0, _, _, t => t
  | n + 1, above, v, t =>
    match t.finished, current t.work.files plan.follow v with
    | true, _ => t
    | false, .error e => (enter start p v.depth t).complain p v.path e.reason
    | false, .ok v =>
      let judged (t : Trail) : Trail :=
        let t := enter start p v.depth t
        if v.depth < plan.least then t else (judge start p v plan.expression t).1
      let below (t : Trail) : Trail :=
        if t.finished || t.pruned || !v.node.isDir || plan.most.any (· ≤ v.depth) then t
        else if !t.work.files.isDirAt v.loc then t.miss p v
        else
          (inside t.work.files v).foldl
            (fun t child => walk start p plan n ((v.loc, v.path) :: above) child t) t
      match (if v.node.isDir then above.lookup v.loc else none) with
      | some path =>
        (enter start p v.depth t).doing (·.complain p
          ("File system loop detected; ".toList ++ Quoting.cited v.path ++
            " is part of the same file system loop as ".toList ++ Quoting.cited path ++ ['.']))
      | none =>
        if plan.deep then
          let t := below (enter start p v.depth t)
          if t.finished then t else judged t
        else
          let t := below (judged t)
          if v.node.isDir && !t.finished then enter start p v.depth t else t

/-- Walks through the tree that a path leads to. -/
def walkFrom (start : Starter) (p : Process) (plan : Plan) (t : Trail) (path : Text) : Trail :=
  if t.finished then t
  else
    match reached t.work.files (plan.follow != .never) path with
    | .error e => t.complain p path e.reason
    | .ok (loc, node) => walk start p plan Files.pathLimit [] ⟨path, path, 0, loc, node⟩ t

/-! ### Arguments -/

/-- The options in front of everything else, and what follows them. -/
def leading (follow : Follow) : List Text → Except (List Text) (Follow × List Text × List Text)
  | [] => .ok (follow, [], [])
  | t :: ts =>
    if t = "-H".toList then leading .starts ts
    else if t = "-L".toList then leading .always ts
    else if t = "-P".toList then leading .never ts
    else if t = "--".toList then .ok (follow, ts, [])
    else if t = "-D".toList then
      match ts with
      | [] => .error ["Missing argument after the -D option.".toList]
      | flag :: ts => (leading follow ts).map fun (follow, rest, warnings) =>
        (follow, rest, ("Ignoring unrecognised debug flag " ++ Quoting.cited flag) :: warnings)
    else if t = "-O".toList then
      .error ["The -O option must be immediately followed by a decimal integer".toList]
    else if "-O".toList.isPrefixOf t then
      if (t.drop 2).all Char.isDigit then leading follow ts
      else .error ["Please specify a decimal number immediately after -O".toList]
    else .ok (follow, t :: ts, [])

/-- Its options, none of which are read like those of other tools. -/
def letters : Letters :=
  { plain := [], package := "(GNU findutils) 4.10.0"
    usage := "[-H] [-L] [-P] [-Olevel] [-D debugopts] [path...] [expression]" }

/-- The option that asks what the tool is, if there is one. -/
def about? (words : List Text) : Option Char :=
  words.findSome? fun t =>
    if t = "--help".toList ∨ t = "-help".toList then some helpLetter
    else if t = "--version".toList ∨ t = "-version".toList then some versionLetter
    else none

/-- Looks for files. -/
def run (start : Starter) (p : Process) : Aftermath :=
  let failed (ts : List Text) : Aftermath := p.leave 1 (ts.map p.complaint)
  match leading .never p.args with
  | .error ts => failed ts
  | .ok (follow, args, warnings) =>
    let paths := args.takeWhile fun t => !isOfExpression true t
    match planOf p follow (args.drop paths.length) with
    | .error ts =>
      match (about? args).bind fun c => aboutSelf? p letters ⟨[(c, [])], []⟩ with
      | some a => a
      | none => failed ts
    | .ok (plan, s) =>
      let work := (warnings ++ s.warnings).foldl (·.warn p ·) (Progress.start p)
      let files := s.opened.foldl
        (fun fs path => ((fs.modify path fun _ => []).toOption).getD fs) work.files
      let t : Trail := { work := { work with files } }
      let paths := if paths.isEmpty then [['.']] else paths
      let a := (flush start p true (paths.foldl (walkFrom start p plan) t)).work.done p
      if s.asks then { a with input := unused p (p.input.length - a.input.length) } else a

end Finding

/-- The files in trees that an expression holds of, and what is done with them. -/
def find (start : Starter) : Tool := fun p => Finding.run start p

end AliasShell.Tools
