/-
The work of a tool that changes files, step by step.

What was done is done, so a step that fails is complained about and leaves the files as the steps
before it did.  A question to the user is answered by the next line of the input.
-/
import AliasShell.Machine.Tools.Basic

namespace AliasShell.Tools

/-- What a tool has done so far. -/
structure Progress where
  files : Files
  /-- what is left of the input -/
  input : Bytes
  transcript : Transcript := []
  /-- something was complained about -/
  failed : Bool := false

namespace Progress

/-- Nothing is done yet. -/
def start (p : Process) : Progress := { files := p.files, input := p.input }

/-- One more line among the errors, which is no complaint. -/
def warn (w : Progress) (p : Process) (t : Text) : Progress :=
  { w with transcript := w.transcript ++ [p.complaint t] }

/-- One more complaint. -/
def complain (w : Progress) (p : Process) (t : Text) : Progress :=
  { w.warn p t with failed := true }

/-- One more line of output, if it is wanted. -/
def tell (w : Progress) (wanted : Bool) (t : Text) : Progress :=
  if wanted then { w with transcript := w.transcript ++ [(.output, Text.bytes (t ++ ['\n']))] }
  else w

/-- Other files, or a complaint. -/
def change (w : Progress) (p : Process) (result : Except SysError Files) (said : Text)
    (tells : Bool) (fault : SysError → Text) : Progress :=
  match result with
  | .ok files => { w with files }.tell tells said
  | .error e => w.complain p (fault e)

/-- Asks a question, and says whether the answer is yes. -/
def ask (w : Progress) (p : Process) (question : Text) : Progress × Bool :=
  let answer := w.input.takeWhile (· != 10)
  let asked := Text.bytes (p.name ++ ": ".toList ++ question ++ "? ".toList)
  ({ w with
      transcript := w.transcript ++ [(.errors, asked)]
      input := w.input.drop (answer.length + 1) },
    (answer.head?).any fun b => b == 121 || b == 89)

/-- What a tool leaves behind that has come so far. -/
def done (w : Progress) (p : Process) : Aftermath :=
  { p.leave (if w.failed then 1 else 0) w.transcript with files := w.files, input := w.input }

end Progress

/-- Works through operands one after another; there has to be one, which `what` calls it. -/
def overOperands (what : Text) (step : Process → Asked → Progress → Text → Progress)
    (p : Process) (a : Asked) : Aftermath :=
  if a.operands.isEmpty then misused p 1 ("missing " ++ what)
  else (a.operands.foldl (step p a) (.start p)).done p

/-- Where a path leads, a link itself and not what it leads to. -/
def place (fs : Files) (path : Text) : Except SysError Location := (fs.namedNode path).map (·.1)

/-- What a path names, a link itself and not what it leads to unless a `/` follows it. -/
def nodeAt (fs : Files) (path : Text) : Except SysError (Location × Node) :=
  if path.getLast? = some '/' then
    match fs.locateWhole path with
    | .error e => .error e
    | .ok loc =>
      match fs.node? loc with
      | some node => .ok (loc, node)
      | none => .error .notFound
  else fs.namedNode path

/-- What a path leads to. -/
def targetAt (fs : Files) (path : Text) : Except SysError (Location × Node) :=
  match fs.locateWhole path with
  | .error e => .error e
  | .ok loc =>
    match fs.node? loc with
    | some node => .ok (loc, node)
    | none => .error .notFound

/-- What the system calls the kind of a node. -/
def kindName : Node → Text
  | .dir _ => "directory"
  | .file [] _ => "regular empty file"
  | .file _ _ => "regular file"
  | .link _ _ => "symbolic link"
  | .device _ => "character special file"

end AliasShell.Tools
