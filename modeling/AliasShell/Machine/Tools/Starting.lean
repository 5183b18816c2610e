/-
Starting other programs, and the tool that does so with another environment.
-/
import AliasShell.Machine.Search
import AliasShell.Machine.Tools.Plain

namespace AliasShell.Tools

/-! ### Words -/

/-- The words of a text: blanks separate them, quotes and backslashes shield blanks; `word` is what
there is of the one that is being read. -/
def inputWords : Option Char → Option Text → Text → List Text
  | _, word, [] => (word.map List.reverse).toList
  | some q, word, c :: cs =>
    if c = q then inputWords none (some (word.getD [])) cs
    else inputWords (some q) (some (c :: word.getD [])) cs
  | none, word, '\\' :: c :: cs => inputWords none (some (c :: word.getD [])) cs
  | none, word, c :: cs =>
    if c = '"' ∨ c = '\'' then inputWords (some c) (some (word.getD [])) cs
    else if c = ' ' ∨ c = '\t' ∨ c = '\n' then
      (word.map List.reverse).toList ++ inputWords none none cs
    else inputWords none (some (c :: word.getD [])) cs

/-! ### Environments -/

/-- The environment without what options take out of it. -/
def reduced (a : Asked) (e : ProcessEnv) : ProcessEnv :=
  a.options.foldl
    (fun e (c, name) =>
      if c = 'i' then ⟨[]⟩
      else if c = 'u' then ⟨e.entries.filter fun x => !ProcessEnv.isFor name.bytes x⟩
      else e)
    e

/-- The settings among arguments, up to one that is none, and what follows them. -/
def settings (e : ProcessEnv) : List Text → ProcessEnv × List Text
  | [] => (e, [])
  | arg :: args =>
    match Text.cutFirst (· == '=') arg with
    | some (name, value) => settings (e.put name.bytes value.bytes) args
    | none => (e, arg :: args)

/-- The letters that `env` knows. -/
def envLetters : Letters :=
  { plain := "i0v", valued := "uCS", anywhere := false
    long := [("ignore-environment", 'i'), ("null", '0'), ("unset", 'u'), ("chdir", 'C'),
      ("split-string", 'S')] }

/-- The options and operands with those that stand in one argument put among them; at most `n` such
arguments.  A lone `-` asks for nothing of the environment to be kept. -/
def spread : Nat → Asked → Except Text Asked
  | 0, a => .ok a
  | n + 1, a =>
    match a.value? 'S' with
    | some t => do
      let args := inputWords none none t ++ a.operands
      let b ← readAsked envLetters args.length args
      spread n { b with options := a.options.filter (·.1 != 'S') ++ b.options }
    | none =>
      match a.operands with
      | ['-'] :: rest => .ok { options := a.options ++ [('i', [])], operands := rest }
      | _ => .ok a

/-- How the options of `env` are read, with those in one argument put among the others. -/
def readEnv (args : List Text) : Except Text Asked := do
  let a ← readAsked envLetters args.length args
  spread args.length a

/-- Ends because of how `env` was called.  A blank among the letters comes from the first line of a
script, where all of them are one argument. -/
def misusedEnv (p : Process) (t : Text) : Aftermath :=
  let advice := if t = "invalid option -- ' '".toList then
    [p.complaint "use -[v]S to pass options in shebang lines"] else []
  p.leave 125 ([p.complaint t] ++ advice ++ [hint p])

/-- Runs a program in another environment, or shows that. -/
def env (start : Starter) : Tool := fun p =>
  match readEnv p.args with
  | .error t => misusedEnv p t
  | .ok a =>
    let (e, rest) := settings (reduced a p.env) a.operands
    let moved : Except Text Process := match a.value? 'C' with
      | none => .ok p
      | some path =>
        match p.files.locateWhole path with
        | .ok loc =>
          if p.files.isDirAt loc then .ok { p with files := { p.files with current := loc } }
          else .error ("cannot change directory to " ++ Quoting.always path ++ ": " ++
            SysError.notDirectory.reason)
        | .error e =>
          .error ("cannot change directory to " ++ Quoting.always path ++ ": " ++ e.reason)
    match rest, moved with
    | [], _ =>
      let lineEnd : Bytes := [if a.has '0' then 0 else 10]
      p.leave 0 [(.output, e.entries.flatMap (· ++ lineEnd))]
    | _, .error t => p.refuse 125 t
    | name :: args, .ok q =>
      match Search.startNamed start { q with name, args, env := e } with
      | .ok a => a
      | .error e =>
        let code := if e = .notFound ∨ e = .notDirectory then 127 else 126
        p.refuse code (Quoting.always name ++ ": " ++ e.reason)

/-! ### Texts in places -/

/-- `t` with another text in place of each `mark`; at most `n` characters are looked at. -/
def replaced (mark new : Text) : Nat → Text → Text
  | 0, t => t
  | _, [] => []
  | n + 1, c :: cs =>
    if !mark.isEmpty && mark.isPrefixOf (c :: cs) then
      new ++ replaced mark new n ((c :: cs).drop mark.length)
    else c :: replaced mark new n cs

end AliasShell.Tools
