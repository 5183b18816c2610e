/-
Tools that start a program under other circumstances, for a limited time or deaf to a signal, and
the one that says which file a program is.
-/
import AliasShell.Machine.Signal
import AliasShell.Machine.Tools.Starting

namespace AliasShell.Tools

/-- The letters of a tool whose options end where the program begins. -/
def wrapping (plain valued : Text) (long : List (String × Char)) : Letters :=
  { plain, valued, long, anywhere := false, usage := "[OPTION] COMMAND [ARG]..." }

/-- Becomes the program among the operands; `fault` is what is said where it cannot be started. -/
def becomeOperand (start : Starter) (p : Process) (fault : Text → Text) (operands : List Text) :
    Aftermath :=
  match operands with
  | [] => p.quit 0
  | name :: args =>
    match Search.startNamed start { p with name, args } with
    | .ok a => a
    | .error e =>
      p.refuse (if e = .notFound ∨ e = .notDirectory then 127 else 126)
        (fault name ++ ": " ++ e.reason)

/-- What is said of a program that cannot be run. -/
def runFault (name : Text) : Text := "failed to run command " ++ Quoting.always name

/-! ### Time -/

/-- The signal that a text names. -/
def signalOf? (t : Text) : Option Nat :=
  let name := t.map Char.toUpper
  Signal.ofText? (if "SIG".toList.isPrefixOf name then name.drop 3 else name)

/-- Starts a program that may take so much time.  What it had written by then is not told from what
it wrote later. -/
def timeout (start : Starter) : Tool :=
  taking
    (wrapping "fvpμ" "ks" [("foreground", 'f'), ("kill-after", 'k'), ("preserve-status", 'p'),
      ("signal", 's'), ("verbose", 'v')])
    125 fun p a =>
      let interval (t : Text) : Except Aftermath Moment :=
        match Moment.ofDuration? t with
        | some d => .ok d
        | none => failMisused p 125 ("invalid time interval " ++ Quoting.cited t)
      settle do
        if let some t := a.value? 'k' then let _ ← interval t
        let signal ← match a.value? 's' with
          | none => pure 15
          | some t =>
            match signalOf? t with
            | some n => pure n
            | none => failMisused p 125 (Quoting.cited t ++ ": invalid signal")
        match a.operands with
        | [] | [_] => throw (p.leave 125 [hint p])
        | t :: command =>
          let limit ← interval t
          let after := becomeOperand start p runFault command
          let deadline := p.files.now + limit
          if limit = 0 ∨ after.files.now < deadline then return after
          else
            let said := if a.has 'v' then
                [p.complaint ("sending signal " ++ Signal.name signal ++ " to command " ++
                  Quoting.always (command.headD []))]
              else []
            let ending : Ending :=
              if signal = 9 then .killed 9
              else .exited (if a.has 'p' then 128 + signal else 124)
            return { after with
              ending
              files := { after.files with now := deadline }
              transcript := after.transcript ++ said }

/-! ### Other circumstances -/

/-- Starts a program to which the end of its session means nothing. -/
def nohup (start : Starter) : Tool :=
  taking (wrapping [] [] []) 125 fun p a =>
    if a.operands.isEmpty then misused p 125 "missing operand"
    else becomeOperand start { p with ignored := 1 :: p.ignored } runFault a.operands

/-! ### Where programs are -/

/-- The program files that a name means to a process. -/
def programsOf (p : Process) (name : Text) : List Text :=
  let isProgram (path : Text) : Bool :=
    match p.files.locateWhole path with
    | .ok loc =>
      match p.files.node? loc with
      | some (.file _ t) => t.runs
      | _ => false
    | .error _ => false
  if name.contains '/' then [name].filter isProgram
  else
    let dirs := (Search.pathOf p).cut (· == ':')
    (dirs.map fun dir => (if dir.isEmpty then ['.'] else dir) ++ '/' :: name).filter isProgram

/-- Says which files names mean. -/
def which : Tool := fun p =>
  match readAsked { plain := "as", anywhere := false } p.args.length p.args with
  | .error t =>
    let c := ((t.reverse.drop 1).headD ' ')
    let told := if c = '-' then 'η' else c
    p.leave 2
      [(.errors, Text.bytes ("Illegal option -" ++ [told, '\n'])),
        (.output, Text.bytes ("Usage: /usr/bin/which [-as] args\n"))]
  | .ok a =>
    let found := a.operands.map (programsOf p)
    let shown := found.flatMap fun paths => if a.has 'a' then paths else paths.take 1
    let lines := if a.has 's' then [] else
      shown.map fun path => (Channel.output, Text.bytes (path ++ ['\n']))
    p.leave (if a.operands.isEmpty || found.any List.isEmpty then 1 else 0) lines

end AliasShell.Tools
