/-
Tools that look at their arguments and at nothing else, or only at where they run.
-/
import AliasShell.Machine.Condition
import AliasShell.Machine.Dates.Basic
import AliasShell.Machine.Format
import AliasShell.Machine.Tools.Basic

namespace AliasShell.Tools

/-- A tool that says what it is where that alone is asked for. -/
def onlyAbout (usage : String) (run : Tool) : Tool := fun p =>
  let asked : Option Char :=
    if p.args = ["--help".toList] then some helpLetter
    else if p.args = ["--version".toList] then some versionLetter
    else none
  (asked.bind fun c => aboutSelf? p { plain := [], usage } ⟨[(c, [])], []⟩).getD (run p)

/-! ### Writing -/

/-- The letters in front of what `echo` writes; a word with any other letter is no option. -/
def echoOptions : List Text → Text × List Text
  | ('-' :: c :: cs) :: args =>
    if (c :: cs).all "neE".toList.contains then
      let (more, rest) := echoOptions args
      (c :: cs ++ more, rest)
    else ([], ('-' :: c :: cs) :: args)
  | args => ([], args)

/-- The arguments on one line.  `-n` leaves out the line end, and `-e` looks at backslashes. -/
def echo : Tool := onlyAbout "[SHORT-OPTION]... [STRING]..." fun p =>
  let (letters, args) := echoOptions p.args
  let t := Text.unwords args
  let escapes := (letters.reverse.find? fun c => c == 'e' || c == 'E') = some 'e'
  let (b, ended) := if escapes then EscapeStyle.tool.bytes t else (Text.bytes t, false)
  p.leave 0 [(.output, if ended || letters.contains 'n' then b else b ++ [10])]

/-- The arguments in a format. -/
def printf : Tool := onlyAbout "FORMAT [ARGUMENT]..." fun p =>
  match (if p.args.head? = some ['-', '-'] then p.args.drop 1 else p.args) with
  | [] => misused p 1 "missing operand"
  | format :: args =>
    let d := Format.write .tool format args
    let excess := match d.stopped, d.args with
      | false, t :: _ =>
        [p.complaint
          ("warning: ignoring excess arguments, starting with " ++ Quoting.cited t)]
      | _, _ => []
    p.leave (if d.complaints.isEmpty then 0 else 1)
      (d.complaints.map p.complaint ++ (.output, d.output) :: excess)

/-- Nothing, with a code. -/
def constant (code : Int) : Tool := fun p =>
  { onlyAbout "[ignored command line arguments]" (·.quit code) p with ending := .exited code }

/-- Nothing, after a time. -/
def sleep : Tool :=
  taking { plain := [], usage := "NUMBER[SUFFIX]..." } 1 fun p a =>
    let lengths := a.operands.map Moment.ofDuration?
    match (a.operands.zip lengths).filter fun e => e.2.isNone with
    | [] =>
      if a.operands.isEmpty then misused p 1 "missing operand"
      else
        let later := lengths.foldl (fun t d => t + d.getD 0) p.files.now
        { p.quit 0 with files := { p.files with now := later } }
    | wrong =>
      let complaints := wrong.map fun e =>
        p.complaint ("invalid time interval " ++ Quoting.cited e.1)
      p.leave 1 (complaints ++ [hint p])

/-! ### Conditions -/

/-- The truth of a condition. -/
def condition (args : List Text) : Tool := fun p =>
  match Condition.holds .tool p.files args with
  | .ok truth => p.quit (Condition.code truth)
  | .error e => p.refuse 2 (Condition.message .tool e)

/-- The truth of a condition. -/
def test : Tool := fun p => condition p.args p

/-- The truth of a condition in brackets. -/
def bracket : Tool := fun p =>
  if p.args = ["--help".toList] then p.say "Usage: test EXPRESSION\n"
  else if p.args = ["--version".toList] then onlyAbout "" (·.quit 0) p
  else if p.args.getLast? = some [']'] then condition p.args.dropLast p
  else p.refuse 2 "missing ']'"

/-! ### Paths as text -/

/-- A path without the `/` at its end, but for one that is all there is. -/
def withoutSlashes (t : Text) : Text :=
  let bare := (t.reverse.dropWhile (· == '/')).reverse
  if bare.isEmpty && !t.isEmpty then ['/'] else bare

/-- The last part of a path. -/
def lastPart (t : Text) : Text :=
  let bare := withoutSlashes t
  if bare = ['/'] then bare else ((bare.cutLast (· == '/')).map (·.2)).getD bare

/-- A path without its last part. -/
def firstParts (t : Text) : Text :=
  let bare := withoutSlashes t
  if bare = ['/'] then bare
  else
    match bare.cutLast (· == '/') with
    | some (dir, _) => withoutSlashes dir
    | none => ['.']

/-- A name without an ending that is not all of it. -/
def withoutEnding (ending t : Text) : Text :=
  if ending != t && ending.reverse.isPrefixOf t.reverse then t.take (t.length - ending.length)
  else t

/-- The last part of paths; a second argument is an ending that is left out. -/
def basename : Tool :=
  taking { plain := "az", valued := "s", anywhere := false, long := [("suffix", 's')] } 1
    fun p a =>
      let lineEnd := if a.has 'z' then '\x00' else '\n'
      let many := a.has 'a' || a.has 's'
      match a.operands with
      | [] => misused p 1 "missing operand"
      | [t] => p.say (withoutEnding ((a.value? 's').getD []) (lastPart t) ++ [lineEnd])
      | t :: u :: rest =>
        if many then
          p.say ((t :: u :: rest).flatMap fun t =>
            withoutEnding ((a.value? 's').getD []) (lastPart t) ++ [lineEnd])
        else
          match rest with
          | [] => p.say (withoutEnding u (lastPart t) ++ [lineEnd])
          | v :: _ => misused p 1 ("extra operand " ++ Quoting.cited v)

/-- Paths without their last part. -/
def dirname : Tool :=
  taking { plain := "z" } 1 fun p a =>
    if a.operands.isEmpty then misused p 1 "missing operand"
    else
      p.say (a.operands.flatMap fun t => firstParts t ++ [if a.has 'z' then '\x00' else '\n'])

/-! ### Where a process runs -/

/-- The directory of a process. -/
def pwd : Tool :=
  taking { plain := "LP", long := [("logical", 'L'), ("physical", 'P')] } 1 fun p a =>
    let isLogical := (a.options.getLast?).any (·.1 == 'L')
    let line := (if isLogical then p.workingDir else p.directory) ++ ['\n']
    if a.operands.isEmpty then p.say line
    else p.leave 0 [p.complaint "ignoring non-option arguments", (.output, Text.bytes line)]

/-- The values of variables, or the whole environment. -/
def printenv : Tool :=
  taking { plain := "0", anywhere := false, long := [("null", '0')] } 2 fun p a =>
    let lineEnd : Bytes := [if a.has '0' then 0 else 10]
    if a.operands.isEmpty then
      p.leave 0 [(.output, p.env.entries.flatMap (· ++ lineEnd))]
    else
      let found := a.operands.filterMap fun name =>
        if name.contains '=' then none else p.env.find? name.bytes
      p.leave (if found.length = a.operands.length then 0 else 1)
        [(.output, found.flatMap (· ++ lineEnd))]

end AliasShell.Tools
