/-
Redirections: where the channels of a command lead while it runs.

They are made one after another; the first one that cannot be made is complained about, and its
command does not run.
-/
import AliasShell.Machine.Script.Expand

namespace AliasShell.Script.State

/-- The channel that a path stands for. -/
def channelOf? (path : Text) : Option Nat :=
  if path = "/dev/stdin".toList then some 0
  else if path = "/dev/stdout".toList then some 1
  else if path = "/dev/stderr".toList then some 2
  else
    ["/dev/fd/".toList, "/proc/self/fd/".toList].findSome? fun dir =>
      let ds := path.drop dir.length
      if dir.isPrefixOf path && !ds.isEmpty && ds.all Char.isDigit then some (Integer.ofDigits ds)
      else none

/-- The reason for which a file cannot be opened. -/
def openReason (how : Opening) : SysError → Text
  | .notFound | .notDirectory =>
    match how with
    | .read => "No such file"
    | _ => "Directory nonexistent"
  | e => e.reason

/-- The complaint about a file that cannot be opened. -/
def openComplaint (how : Opening) (path : Text) (e : SysError) : Text :=
  (match how with
    | .read => "cannot open "
    | _ => "cannot create ") ++ path ++ ": " ++ openReason how e

/-- The stream of a file that is read. -/
def readStream (s : State) (path : Text) : Except SysError (State × Stream) := do
  let loc ← s.files.locateWhole path
  match s.files.node? loc with
  | some (.file _ _) =>
    let (s, number) := s.fileNumber loc
    return (s, .file number 0 false)
  | some (.device .terminal) => throw .noDevice
  | some (.device d) => return (s, .device d)
  | some _ => return (s, .lost)
  | none => throw .notFound

/-- The stream of a file that is written. -/
def writeStream (s : State) (path : Text) (how : Opening) : Except SysError (State × Stream) := do
  let loc ← s.files.writable path
  match s.files.node? loc with
  | some (.device .terminal) => throw .noDevice
  | some (.device d) => return (s, .device d)
  | some _ =>
    if s.has 'C' && how = .write then throw .present
    else
      let keeps : Bool := how = .append || how = .both
      let files := if keeps then s.files else s.files.modifyAt loc fun _ => []
      let (s, number) := { s with files }.fileNumber loc
      return (s, .file number 0 (how = .append))
  | none =>
    let (s, number) := { s with files := s.files.modifyAt loc id }.fileNumber loc
    return (s, .file number 0 (how = .append))

/-- A channel leads where another one does. -/
def copyChannel (s : State) (channel source : Nat) : State × Bool :=
  match s.channels.lookup source with
  | some n => (s.lead channel n, true)
  | none => (s.complain (Integer.digits source ++ ": Bad file descriptor"), false)

/-- A channel leads to a file. -/
def openFile (s : State) (channel : Nat) (how : Opening) (path : Text) : State × Bool :=
  match channelOf? path with
  | some source =>
    match s.channels.lookup source with
    | some n => (s.lead channel n, true)
    | none => (s.complain (openComplaint how path .notFound), false)
  | none =>
    match (if how = .read then s.readStream path else s.writeStream path how) with
    | .ok (s, stream) => (s.connect channel stream, true)
    | .error e => (s.complain (openComplaint how path e), false)

/-- Makes one redirection. -/
def redirect (sub : Script → State → State) (s : State) : Redirect → State × Bool
  | .file channel how w =>
    let (s, path) := s.expandText sub w
    if s.running then s.openFile channel how path else (s, false)
  | .copy channel w =>
    let (s, t) := s.expandText sub w
    if !s.running then (s, false)
    else if t = ['-'] then (s.close channel, true)
    else if !t.isEmpty && t.all Char.isDigit then s.copyChannel channel (Integer.ofDigits t)
    else (s.fail "Bad fd number", false)
  | .here channel w =>
    let (s, ps) := expandParts sub .text w s
    if s.running then
      (s.connect channel (.source (Text.bytes (Glyph.text (Piece.glyphs s.separator ps))) none),
        true)
    else (s, false)

/-- Makes redirections up to one that cannot be made. -/
def redirectAll (sub : Script → State → State) : List Redirect → State → State × Bool
  | [], s => (s, true)
  | r :: rs, s =>
    match s.redirect sub r with
    | (s, true) => redirectAll sub rs s
    | (s, false) => (s, false)

end AliasShell.Script.State
