/-
What a system, its user and its terminal are called.

There is one user, who may do everything, and no terminal.
-/
import AliasShell.Machine.Tools.Basic

namespace AliasShell.Tools

/-- A tool that takes options and nothing else. -/
def takingOptions (l : Letters) (code : Int) (run : Process → Asked → Aftermath) : Tool :=
  taking { l with usage := "[OPTION]..." } code fun p a =>
    match a.operands with
    | t :: _ => misused p code ("extra operand " ++ Quoting.cited t)
    | [] => run p a

/-! ### The system -/

/-- What is known of a system, by the letters that ask for it, in the order in which it is told. -/
def systemFacts : List (Char × String) :=
  [('s', "Linux"), ('n', "localhost"), ('r', "6.1.0"), ('v', "#1 SMP"), ('m', "x86_64"),
    ('p', "x86_64"), ('i', "x86_64"), ('o', "GNU/Linux")]

/-- What is known of the system. -/
def uname : Tool :=
  takingOptions
    { plain := "asnrvmpio"
      long := [("all", 'a'), ("kernel-name", 's'), ("sysname", 's'), ("nodename", 'n'),
        ("kernel-release", 'r'), ("release", 'r'), ("kernel-version", 'v'), ("machine", 'm'),
        ("processor", 'p'), ("hardware-platform", 'i'), ("operating-system", 'o')] }
    1 fun p a =>
      let wanted (c : Char) : Bool := if a.options.isEmpty then c == 's' else a.has 'a' || a.has c
      let facts := (systemFacts.filter fun e => wanted e.1).map fun e => e.2.toList
      p.say (Text.unwords facts ++ ['\n'])

/-- The kind of machine. -/
def arch : Tool := takingOptions { plain := [] } 1 fun p _ => p.say "x86_64\n"

/-- How many processors there are, less those that are not counted. -/
def nproc : Tool :=
  takingOptions { plain := "α", valued := "ι", long := [("all", 'α'), ("ignore", 'ι')] } 1
    fun p a =>
      match (a.value? 'ι').mapM fun t => bounded "invalid number" false 0 mostCount t with
      | .ok _ => p.say "1\n"
      | .error t => p.refuse 1 t

/-! ### The user -/

/-- The name of the user. -/
def whoami : Tool := takingOptions { plain := [] } 1 fun p _ => p.say "root\n"

/-- The name that somebody logged in by; nobody did. -/
def logname : Tool := takingOptions { plain := [] } 1 fun p _ => p.refuse 1 "no login name"

/-- Users and groups have the same names, and these are their numbers. -/
def accounts : List (String × String × String) :=
  [("root", "root", "0"), ("daemon", "daemon", "1"), ("bin", "bin", "2"), ("sys", "sys", "3"),
    ("nobody", "nogroup", "65534")]

/-- The account of a name or number. -/
def account? (t : Text) : Option (String × String × String) :=
  accounts.find? fun e => e.1.toList == t || e.2.2.toList == t

/-- Somebody who is not known. -/
def unknownUser (t : Text) : Text := Quoting.always t ++ ": no such user"

/-- The groups of users. -/
def userGroups : Tool :=
  taking { plain := [], usage := "[OPTION]... [USERNAME]..." } 1 fun p a =>
    if a.operands.isEmpty then p.say "root\n"
    else
      let transcript := a.operands.map fun t =>
        match account? t with
        | some e =>
          (Channel.output, Text.bytes (e.1.toList ++ " : ".toList ++ e.2.1.toList ++ ['\n']))
        | none => p.complaint (unknownUser t)
      conclude p p.input transcript

/-- What is said of an account. -/
def idText (a : Asked) (e : String × String × String) : Text :=
  let lineEnd := if a.has 'z' then '\x00' else '\n'
  let (user, group, number) := (e.1.toList, e.2.1.toList, e.2.2.toList)
  match a.lastOf "ugG" with
  | some 'u' => (if a.has 'n' then user else number) ++ [lineEnd]
  | some _ => (if a.has 'n' then group else number) ++ [lineEnd]
  | none =>
    let named (what : String) (name : Text) : Text :=
      what.toList ++ '=' :: number ++ '(' :: name ++ [')']
    Text.unwords [named "uid" user, named "gid" group, named "groups" group] ++ [lineEnd]

/-- The numbers and names of users and groups. -/
def identity : Tool :=
  taking
    { plain := "aZgGnruz", usage := "[OPTION]... [USER]..."
      long := [("context", 'Z'), ("group", 'g'), ("groups", 'G'), ("name", 'n'), ("real", 'r'),
        ("user", 'u'), ("zero", 'z')] }
    1 fun p a =>
      let choices := "ugG".toList.filter a.has
      if a.has 'Z' then
        p.refuse 1 "--context (-Z) works only on an SELinux-enabled kernel"
      else if 1 < choices.length then
        p.refuse 1 "cannot print \"only\" of more than one choice"
      else if choices.isEmpty && a.hasAny "nr" then
        p.refuse 1 "cannot print only names or real IDs in default format"
      else if choices.isEmpty && a.has 'z' then
        p.refuse 1 "option --zero not permitted in default format"
      else if a.operands.isEmpty then p.say (idText a ("root", "root", "0"))
      else
        conclude p p.input (a.operands.map fun t =>
          match account? t with
          | some e => (.output, Text.bytes (idText a e))
          | none => p.complaint (unknownUser t))

/-! ### The terminal -/

/-- The terminal that the input is; it is none. -/
def tty : Tool :=
  takingOptions
    { plain := "s", long := [("silent", 's'), ("quiet", 's')] } 2 fun p a =>
      p.leave 1 (if a.has 's' then [] else [(.output, Text.bytes "not a tty\n".toList)])

end AliasShell.Tools
