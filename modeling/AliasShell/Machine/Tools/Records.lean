/-
The tool that runs programs over the records of its input.
-/
import AliasShell.Machine.Tools.Records.Reader
import AliasShell.Machine.Tools.Records.Run

namespace AliasShell.Tools

namespace Records

/-- What the arguments ask for. -/
structure Wanted where
  fs : Option Text := none
  /-- the variables that are set, in order -/
  settings : List (Text × Text) := []
  /-- the files that hold the program -/
  sources : List Text := []
  /-- the version is asked for -/
  version : Bool := false
  usage : Bool := false
  rest : List Text := []

/-- What the arguments ask for; at most `n` are looked at. -/
def wanted : Nat → List Text → Wanted → Except Text Wanted
  | 0, args, w => .ok { w with rest := args }
  | _, [], w => .ok w
  | n + 1, arg :: args, w =>
    match arg with
    | ['-'] => .ok { w with rest := arg :: args }
    | ['-', '-'] => .ok { w with rest := args }
    | '-' :: '-' :: word =>
      if word = "version".toList then .ok { w with version := true }
      else if word = "help".toList ∨ word = "usage".toList then .ok { w with usage := true }
      else .error ("not an option: " ++ arg)
    | '-' :: c :: cs =>
      if !"FvfW".toList.contains c then .error ("not an option: " ++ arg)
      else
        let given : Option (Text × List Text) := match cs, args with
          | _ :: _, args => some (cs, args)
          | [], value :: args => some (value, args)
          | [], [] => none
        match given with
        | none => .error ("option -".toList ++ c :: " lacks argument".toList)
        | some (value, args) =>
          match c with
          | 'F' => wanted n args { w with fs := some value }
          | 'f' => wanted n args { w with sources := w.sources ++ [value] }
          | 'v' =>
            match setting? value with
            | some e => wanted n args { w with settings := w.settings ++ [e] }
            | none => .error ("improper assignment: -v " ++ value)
          | _ =>
            if "version".toList.isPrefixOf value then .ok { w with version := true }
            else if value = "help".toList ∨ value = "usage".toList then .ok { w with usage := true }
            else wanted n args w
    | arg => .ok { w with rest := arg :: args }

/-- How the tool is used. -/
def usageText : Text :=
  ("Usage: mawk [Options] [Program] [file ...]\n\nProgram:\n" ++
    "    The -f option value is the name of a file containing program text.\n" ++
    "    If no -f option is given, a \"--\" ends option processing; the following\n" ++
    "    parameters are the program text.\n\nOptions:\n" ++
    "    -f program-file  Program  text is read from file instead of from the\n" ++
    "                     command-line.  Multiple -f options are accepted.\n" ++
    "    -F value         sets the field separator, FS, to value.\n" ++
    "    -v var=value     assigns value to program variable var.\n" ++
    "    --               unambiguous end of options.\n\n" ++
    "    Implementation-specific options are prefixed with \"-W\".  They can be\n" ++
    "    abbreviated:\n\n" ++
    "    -W version       show version information and exit.\n" ++
    "    -W compat        pre-POSIX 2001.\n" ++
    "    -W dump          show assembler-like listing of program and exit.\n" ++
    "    -W help          show this message and exit.\n" ++
    "    -W interactive   set unbuffered output, line-buffered input.\n" ++
    "    -W exec file     use file as program as well as last option.\n" ++
    "    -W posix         stricter POSIX checking.\n" ++
    "    -W random=number set initial random seed.\n" ++
    "    -W sprintf=number adjust size of sprintf buffer.\n" ++
    "    -W usage         show this message and exit.\n").toList

/-- The text of a program that files hold. -/
def sourceText (p : Process) (names : List Text) : Except Text Text :=
  (names.mapM fun name =>
    match readFile p (if name = ['-'] then "/dev/stdin".toList else name) with
    | .ok b => Except.ok (Bytes.numbered b ++ ['\n'])
    | .error e =>
      Except.error ("cannot open \"" ++ name ++ "\" (" ++ e.reason ++ ")")).map List.flatten

/-- What a program knows when it begins. -/
def initial (p : Process) (operands : List Text) : State :=
  let text (t : String) : Value := .text t.toList
  let values : List (String × Value) :=
    [("FS", text " "), ("OFS", text " "), ("ORS", text "\n"), ("RS", text "\n"),
      ("OFMT", text "%.6g"), ("CONVFMT", text "%.6g"), ("SUBSEP", text "\x1c"),
      ("NR", .number 0.0), ("FNR", .number 0.0), ("RSTART", .number 0.0),
      ("RLENGTH", .number (-1.0)),
      ("FILENAME", text ""), ("ARGC", Value.ofNat (operands.length + 1))]
  let arguments := (List.range (operands.length + 1)).zip (p.name :: operands) |>.foldl
    (fun (t : Table) (i, arg) =>
      t.put (.whole i) (if i = 0 then .text arg else Value.ofOutside arg)) {}
  let environment := p.env.entries.foldl
    (fun (t : Table) e =>
      match Text.cutFirst (· == '=') (Bytes.numbered e) with
      | some (name, value) => t.put (.name name) (Value.ofOutside value)
      | none => t) {}
  { files := p.files, input := p.input
    values := values.foldl (fun m (name, v) => m.insert name.toList v) {}
    tables := (({} : Std.HashMap Text Table).insert "ARGV".toList arguments).insert
      "ENVIRON".toList environment }

/-- What a tool leaves behind whose program has ended in a state. -/
def aftermath (p : Process) (s : State) (code : Int) : Aftermath :=
  { p.leave code s.written.reverse with
    files := { s.files with current := p.files.current }
    input := match s.taken with
      | some all =>
        let left := match s.origin with
          | .within rest true _ => rest.length
          | _ => 0
        unusedOf 4096 { p with input := p.input.drop (p.input.length - all) } (all - left)
      | none => s.input }

/-- Runs a program over operands. -/
def runProgram (start : Starter) (p : Process) (w : Wanted) (g : Program) (operands : List Text) :
    Aftermath :=
  let h : Host := ⟨p, start, g⟩
  let act : Act Unit := do
    match w.fs with
    | some t => setVar (.global "FS".toList) (.text (Lexeme.unescape t))
    | none => pure ()
    w.settings.forM fun (name, t) => assignOutside name t
    Run.whole h
    closeAll h
  match act.run (initial p operands) with
  | .ok _ s => aftermath p s (s.code % 256)
  | .error stop s =>
    let faults : List Text := match stop with
      | .fault ts => ts
      | _ => []
    let told : Act Unit := do
      faults.forM fun t => tell .errors (p.complaint t).2
      closeAll h
    match told.run s with
    | .ok _ s => aftermath p s 2
    | .error _ s => aftermath p s 2

end Records

/-- Runs a program over the records of files. -/
def awk (start : Starter) : Tool := fun p =>
  match Records.wanted p.args.length p.args {} with
  | .error t => p.refuse 2 t
  | .ok w =>
    if w.version then
      p.say "mawk 1.3.4 20250131\n"
    else if w.usage then p.leave 0 [(.errors, Text.bytes Records.usageText)]
    else
      let source : Except Text (Text × List Text) :=
        if w.sources.isEmpty then
          match w.rest with
          | [] => .error []
          | t :: operands => .ok (t, operands)
        else (Records.sourceText p w.sources).map fun t => (t, w.rest)
      match source with
      | .error [] => p.leave 0 [(.errors, Text.bytes Records.usageText)]
      | .error t => p.refuse 2 t
      | .ok (t, operands) =>
        match Records.Program.read t with
        | .error ts =>
          let front : Text := match w.sources with
            | [] => []
            | name :: _ => name ++ ": ".toList
          p.leave 2 (ts.map fun t => p.complaint (front ++ t))
        | .ok g => Records.runProgram start p w g operands

end AliasShell.Tools
