/-
The tool that edits lines, and writes them or puts them in place.
-/
import AliasShell.Machine.Tools.Editing.Reader
import AliasShell.Machine.Tools.Editing.Run

namespace AliasShell.Editing

open Tools

/-- The letters that are known. -/
def letters : Letters :=
  { plain := "nErsuzbπδφσ", valued := "efl", loose := "i"
    long := [("quiet", 'n'), ("silent", 'n'), ("regexp-extended", 'E'), ("expression", 'e'),
      ("file", 'f'), ("in-place", 'i'), ("separate", 's'), ("unbuffered", 'u'),
      ("null-data", 'z'), ("zero-terminated", 'z'), ("line-length", 'l'), ("posix", 'π'),
      ("debug", 'δ'), ("follow-symlinks", 'φ'), ("sandbox", 'σ'), ("binary", 'b')]
    package := "(GNU sed) 4.9"
    usage := "[OPTION]... \x7bscript-only-if-no-other-script\x7d [input-file]..." }

/-- A part of the commands: the name of the file that it is from, if it is from one. -/
structure Part where
  file : Option Text
  body : Text

/-- The parts that are asked for, and the operands that are not among them. -/
def parts (p : Process) (a : Asked) : Except (Text × SysError) (List Part × List Text) := do
  let given ← (a.options.filter fun o => o.1 == 'e' || o.1 == 'f').mapM fun (c, t) =>
    if c = 'e' then pure (⟨none, t⟩ : Part)
    else
      match (if t = ['-'] then .ok p.input else readFile p t) with
      | .ok data =>
        let whole := Bytes.numbered data
        pure ⟨some t, if whole.getLast? = some '\n' then whole.dropLast else whole⟩
      | .error e => throw (t, e)
  match given, a.operands with
  | [], [] => return ([], [])
  | [], t :: rest => return ([⟨none, t⟩], rest)
  | ps, rest => return (ps, rest)

/-- Where in the parts a place of the whole is. -/
def placeIn (place : Nat) (shown : Bool) : Nat → Nat → List Part → Text
  | _, _, [] => []
  | k, begun, q :: qs =>
    let k := if q.file.isNone then k + 1 else k
    if place ≤ begun + q.body.length ∨ qs.isEmpty then
      match q.file with
      | none =>
        "-e expression #" ++ Integer.digits k ++ ", char " ++
          Integer.digits (if shown then place - begun else 0)
      | some name =>
        let line := ((q.body.take (place - begun)).filter (· == '\n')).length + 1
        "file " ++ name ++ " line " ++ Integer.digits (if shown then line else 0)
    else placeIn place shown k (begun + q.body.length + 1) qs

/-- The rows of a content. -/
def rowsOf (lineEnd : UInt8) (source : Text) (first : Nat) (b : Bytes) : List Row :=
  let lines := if lineEnd = 10 then b.lines else (swapEnds b).lines.map swapEnds
  let whole := b.getLast? == some lineEnd
  lines.mapIdx fun i line =>
    ⟨first + i, i + 1 == lines.length, whole || i + 1 < lines.length, source, line⟩

/-- The rows of several contents as those of one. -/
def joined (lineEnd : UInt8) : Nat → List (Text × Bytes) → List Row
  | _, [] => []
  | n, (name, b) :: more =>
    let rows := rowsOf lineEnd name n b
    let rest := joined lineEnd (n + rows.length) more
    if rest.isEmpty then rows else rows.map (fun r => { r with isLast := false }) ++ rest

/-- The name of the copy that is kept of a file that is edited in place. -/
def backupName (mark name : Text) : Text :=
  let (dir, base) := (name.cutLast (· == '/')).getD ([], name)
  if mark.contains '*' then
    let new : Text := mark.flatMap fun c => if c = '*' then base else [c]
    if mark.contains '/' then new else dir ++ new
  else name ++ mark

/-- The pieces of a sink in their order. -/
def Sink.bytes (s : Sink) : Bytes := s.pieces.reverse.flatten

/-- Files with what was written to them by name. -/
def stored (fs : Files) (sinks : List (Text × Sink)) : Files :=
  sinks.foldl (fun fs (name, s) => (fs.modify name fun old => old ++ s.bytes).toOption.getD fs) fs

/-- The work at the beginning of a content. -/
def begin_ (m : Mode) (w : Work) (rows : List Row) : Work :=
  let w := { w with rows, ended := none }
  if rows.isEmpty then { w with ended := some (.ok 0) } else w.cycle m

/-- The code of a run that has ended, and a complaint if it broke off. -/
def outcome (p : Process) (w : Work) : Nat × Transcript :=
  match w.ended with
  | some (.error _) =>
    (1, [p.complaint "-e expression #1, char 0: no previous regular expression"])
  | some (.ok code) => (code, [])
  | none => (0, [])

/-- Edits files in place. -/
def inPlace (p : Process) (m : Mode) (mark : Text) (w : Work) (names : List Text) : Aftermath :=
  let step (w : Work × Transcript × Nat × Bool) (name : Text) : Work × Transcript × Nat × Bool :=
    let (w, done, code, ended) := w
    if ended then (w, done, code, ended)
    else
      match w.files.read name with
      | .error .isDirectory =>
        (w, done ++ [p.complaint ("couldn't edit " ++ name ++ ": not a regular file")], 4, false)
      | .error e =>
        (w, done ++ [p.complaint ("can't read " ++ name ++ ": " ++ e.reason)], max code 2, false)
      | .ok b =>
        let w := Work.steps m Work.patience
          (begin_ m { w with output := {} } (rowsOf m.lineEnd name 1 b))
        let (own, complaints) := outcome p w
        let files := if mark.isEmpty then w.files
          else (w.files.modify (backupName mark name) fun _ => b).toOption.getD w.files
        let files := (files.modify name fun _ => w.output.bytes).toOption.getD files
        let ended := own != 0 || !w.rows.isEmpty
        ({ w with files }, done ++ complaints, max own code, ended)
  let (w, done, code, _) := names.foldl step ({ w with screen := some {} }, [], 0, false)
  let screen := match w.screen with
    | some s => s.bytes
    | none => []
  { p.leave code (done ++ [(.errors, w.errors.bytes), (.output, screen)]) with
    files := stored w.files w.sinks }

/-- Edits contents and writes what comes of them. -/
def onward (p : Process) (m : Mode) (separate : Bool) (w : Work) (names : List Text) : Aftermath :=
  let (found, rest) := contents p (orInput names)
  let broken := found.findIdx? fun (_, content) => content matches .error .isDirectory
  let found := match broken with
    | some i => found.take (i + 1)
    | none => found
  let faults := found.filterMap fun (name, content) =>
    match content with
    | .ok _ => none
    | .error .isDirectory =>
      some (p.complaint ("read error on " ++ name ++ ": " ++ SysError.isDirectory.reason))
    | .error e => some (p.complaint ("can't read " ++ name ++ ": " ++ e.reason))
  let good := found.filterMap fun (name, content) => content.toOption.map fun b => (name, b)
  let rows := if separate then good.flatMap fun (name, b) => rowsOf m.lineEnd name 1 b
    else joined m.lineEnd 1 good
  let w := Work.steps m Work.patience (begin_ m w rows)
  let (code, complaints) := outcome p w
  let code := if broken.isSome then 4 else if code = 0 ∧ !faults.isEmpty then 2 else code
  let rest := match names, w.rows with
    | [], _ :: _ =>
      let left := w.rows.foldl (fun n r => n + r.line.length + if r.ended then 1 else 0) 0
      unusedOf 4096 p (p.input.length - left)
    | _, _ => rest
  { p.leave code (faults ++ complaints ++
      [(.errors, w.errors.bytes), (.output, w.output.bytes)]) with
    input := rest, files := stored w.files w.sinks }

end AliasShell.Editing

namespace AliasShell.Tools

open Editing in
/-- Edits the lines of contents. -/
def sed : Tool :=
  taking Editing.letters 1 fun p a =>
    match Editing.parts p a with
    | .error (name, e) => p.refuse 4 ("couldn't open file " ++ name ++ ": " ++ e.reason)
    | .ok ([], _) => p.leave 1 [(.errors, Text.bytes (usageLine p Editing.letters.usage ++ ['\n']))]
    | .ok (ps, names) =>
      match Editing.read (a.hasAny "Er") (['\n'].intercalate (ps.map Part.body)) with
      | .error (f, place, shown) =>
        if f = .expression .classForm then p.refuse 4 f.message
        else p.refuse 1 (placeIn place shown 0 0 ps ++ ": " ++ f.message)
      | .ok script =>
        match script.lost? with
        | some name => p.refuse 1 ("can't find label for jump to \x60" ++ name ++ ['\''])
        | none =>
          let fault := script.written.findSome? fun name =>
            if ["/dev/stdout", "/dev/stderr"].contains (String.ofList name) then none
            else
              match p.files.writable name with
              | .ok _ => none
              | .error e => some (name, e)
          match fault with
          | some (name, e) => p.refuse 4 ("couldn't open file " ++ name ++ ": " ++ e.reason)
          | none =>
            let files := script.written.foldl
              (fun fs name =>
                if name.startsWith "/dev/" then fs
                else (fs.modify name fun _ => []).toOption.getD fs) p.files
            let m : Mode :=
              { script, quiet := a.has 'n' || script.quiet
                width := ((a.value? 'l').bind count?).getD (if a.has 'l' then 0 else 70)
                lineEnd := if a.has 'z' then 0 else 10
                input := if names.isEmpty ∨ names.contains ['-'] then [] else p.input }
            let w : Work :=
              { files, rows := [], row := ⟨0, true, true, [], []⟩, space := {}
                within := script.commands.map Work.atFirst }
            match a.value? 'i' with
            | some mark => inPlace p m mark w names
            | none => onward p m (a.has 's') w names

end AliasShell.Tools
