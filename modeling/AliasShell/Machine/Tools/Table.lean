/-
All tools by their names.
-/
import AliasShell.Machine.Script.Program
import AliasShell.Machine.Tools.Attributes
import AliasShell.Machine.Tools.Characters
import AliasShell.Machine.Tools.Circumstances
import AliasShell.Machine.Tools.Clock
import AliasShell.Machine.Tools.Columns
import AliasShell.Machine.Tools.Comparing
import AliasShell.Machine.Tools.Copying
import AliasShell.Machine.Tools.Describing
import AliasShell.Machine.Tools.Dumping
import AliasShell.Machine.Tools.Directories
import AliasShell.Machine.Tools.Editing
import AliasShell.Machine.Tools.Encoding
import AliasShell.Machine.Tools.Expr
import AliasShell.Machine.Tools.Finding
import AliasShell.Machine.Tools.Identity
import AliasShell.Machine.Tools.Layout
import AliasShell.Machine.Tools.Linking
import AliasShell.Machine.Tools.Listing
import AliasShell.Machine.Tools.Records
import AliasShell.Machine.Tools.Removing
import AliasShell.Machine.Tools.Repetitions
import AliasShell.Machine.Tools.Searching
import AliasShell.Machine.Tools.Series
import AliasShell.Machine.Tools.Sorting
import AliasShell.Machine.Tools.Supplying

namespace AliasShell.Tools

/-- The tools that start other programs. -/
def starting : List (Text × (Starter → Tool)) :=
  [("sh", Script.Program.run), ("dash", Script.Program.run), ("bash", Script.Program.run),
    ("env", env), ("xargs", xargs), ("find", find), ("awk", awk), ("mawk", awk),
    ("timeout", timeout), ("nohup", nohup)]

/-- The tools that say something. -/
def sayers : List (String × Tool) :=
  [("echo", echo), ("printf", printf), ("pwd", pwd), ("printenv", printenv), ("uname", uname),
    ("basename", basename), ("dirname", dirname), ("seq", seq), ("yes", yes), ("expr", expr),
    ("date", date), ("which", which), ("nproc", nproc), ("arch", arch), ("whoami", whoami),
    ("logname", logname), ("id", identity), ("groups", userGroups), ("tty", tty)]

/-- The tools that write what they read, or parts or sizes of it. -/
def readers : List (String × Tool) :=
  [("cat", cat), ("tac", tac), ("rev", rev), ("od", od), ("base64", base64), ("base32", base32),
    ("head", head), ("tail", tail), ("wc", wc), ("tee", tee)]

/-- The tools that look at lines. -/
def liners : List (String × Tool) :=
  [("sort", sort), ("uniq", uniq), ("cut", cut), ("paste", paste), ("tr", tr), ("fold", fold),
    ("expand", expand), ("unexpand", unexpand), ("nl", nl), ("diff", diff), ("comm", comm),
    ("join", join), ("cmp", cmp), ("grep", grep []), ("egrep", grep ['E']), ("fgrep", grep ['F']),
    ("sed", sed)]

/-- The tools that look at files. -/
def finders : List (String × Tool) :=
  [("ls", ls), ("dir", dir), ("vdir", vdir), ("readlink", readlink), ("realpath", realpath),
    ("stat", stat)]

/-- The tools that change something, or only have a code. -/
def doers : List (String × Tool) :=
  [("true", constant 0), ("false", constant 1), ("sleep", sleep), ("test", test), ("[", bracket),
    ("mkdir", mkdir), ("rmdir", rmdir), ("rm", rm), ("unlink", unlink), ("touch", touch),
    ("cp", cp), ("mv", mv), ("ln", ln), ("link", link), ("chmod", chmod), ("chown", chown),
    ("chgrp", chgrp), ("truncate", truncate)]

/-- The tools that do all by themselves. -/
def alone : List (Text × Tool) :=
  (sayers ++ readers ++ liners ++ finders ++ doers).map fun e => (e.1.toList, e.2)

/-- The names of the tools. -/
def names : List Text := starting.map (·.1) ++ alone.map (·.1)

/-- The tool of a name. -/
def ofName? (start : Starter) (name : Text) : Option Tool :=
  match starting.lookup name with
  | some tool => some (tool start)
  | none => alone.lookup name

/-- What is wrong with an output that takes nothing. -/
def outletReason : Outlet → Text
  | .full => "No space left on device"
  | _ => "Bad file descriptor"

/-- What a tool says of an output that takes nothing, and the code that it ends with. -/
def writeFault (tool : Text) : (Outlet → Text) × Int :=
  let quoted : List Text := ["head", "tail"].map String.toList
  let said (front : Text) (outlet : Outlet) : Text := front ++ ": " ++ outletReason outlet
  if tool = "sort".toList then (said "write failed: 'standard output'", 2)
  else if tool = "sed".toList then (said "couldn't flush stdout", 4)
  else if tool = "tee".toList then (said "'standard output'", 1)
  else if quoted.contains tool then (said "error writing 'standard output'", 1)
  else if tool = "ls".toList ∨ tool = "grep".toList then (said "write error", 2)
  else (said "write error", 1)

end AliasShell.Tools
