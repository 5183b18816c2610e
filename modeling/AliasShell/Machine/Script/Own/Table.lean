/-
All commands of a script's own, and what a name is where a command begins.
-/
import AliasShell.Machine.Script.Own.Basic
import AliasShell.Machine.Script.Own.Control
import AliasShell.Machine.Script.Own.Directory
import AliasShell.Machine.Script.Own.Limits
import AliasShell.Machine.Script.Own.Read
import AliasShell.Machine.Script.Own.Variables

namespace AliasShell.Script.Own

/-- How a command of the script's own is treated. -/
inductive Rank where
  | plain
  /-- a fault in it ends the script, and settings in front of it stay -/
  | special
  deriving Repr, DecidableEq

/-- The special commands that work on the state alone. -/
def specials : List (Text × Own) :=
  [(":", constant 0), ("break", leaveLoops .leave), ("continue", leaveLoops .again), ("eval", eval),
    ("exit", exit), ("export", exportVars), ("local", localVars), ("readonly", protect),
    ("return", back), ("set", set), ("shift", shift), ("times", times), ("trap", trap),
    ("unset", unset), (".", readIn)]

/-- The other commands that work on the state alone. -/
def plains : List (Text × Own) :=
  [("[", bracket), ("alias", setAliases), ("bg", fun _ _ s => refuse s "No current job"),
    ("cd", changeDir), ("chdir", changeDir), ("echo", echo), ("false", constant 1),
    ("fg", fun _ _ s => refuse s "No current job"), ("getopts", getopts),
    ("jobs", jobs), ("kill", kill), ("printf", printf), ("pwd", showDir), ("read", read),
    ("test", test), ("true", constant 0), ("ulimit", limits), ("umask", mask),
    ("unalias", forgetAliases), ("wait", wait)]

/-- The name of the command that runs a program in place of the script. -/
def execName : Text := "exec"

/-- The name of the command that runs one that no function hides. -/
def commandName : Text := "command"

/-- The commands that keep the settings among their arguments whole. -/
def declarers : List Text := ["alias", "export", "local", "readonly"].map String.toList

/-- The commands that ask what other names are. -/
def inquirers : List Text := ["type".toList, "hash".toList, commandName]

/-! ### What a name is -/

/-- What a name is where a command begins. -/
inductive Kind where
  | keyword
  | aliasFor (t : Text)
  | function
  | own (rank : Rank)
  | program (path : Text)
  /-- a program that was found before -/
  | foundAt (path : Text)
  | missing
  deriving Repr, DecidableEq

/-- What a name is. -/
def kindOf (s : State) (name : Text) : Kind :=
  if reserved.contains name then .keyword
  else
    match s.aliases.lookup name with
    | some t => .aliasFor t
    | none =>
      if name = execName ∨ (specials.lookup name).isSome then .own .special
      else if (s.functions.lookup name).isSome then .function
      else if name ∈ inquirers ∨ (plains.lookup name).isSome then .own .plain
      else
        match s.found.lookup name, s.program? name with
        | some path, _ => .foundAt path
        | none, some path => .program path
        | none, none => .missing

/-- The sentence that says what a name is. -/
def sentence (name : Text) : Kind → Text
  | .keyword => name ++ " is a shell keyword"
  | .aliasFor t => name ++ " is an alias for " ++ t
  | .function => name ++ " is a shell function"
  | .own .special => name ++ " is a special shell builtin"
  | .own .plain => name ++ " is a shell builtin"
  | .program path => name ++ " is " ++ path
  | .foundAt path => name ++ " is a tracked alias for " ++ path
  | .missing => name ++ ": not found"

/-- Says what names are. -/
def describe : Own := fun _ args s =>
  let kinds := args.map fun name => (name, kindOf s name)
  let s := s.say (printed (kinds.map fun (name, kind) => sentence name kind))
  let s := kinds.foldl
    (fun s (name, kind) =>
      match kind with
      | .program path => s.remember name path
      | _ => s)
    s
  if kinds.any fun (_, kind) => kind == .missing then s.withStatus 127 else s

/-- Says in short what a name is. -/
def mention (name : Text) (s : State) : State :=
  match kindOf s name with
  | .aliasFor t => s.say (printed ["alias ".toList ++ name ++ '=' :: quoted t])
  | .program path | .foundAt path => (s.remember name path).say (printed [path])
  | .missing => s.withStatus 127
  | _ => s.say (printed [name])

/-- Looks for programs and remembers where they are, or shows what is remembered, or forgets it. -/
def hash : Own := fun _ args s =>
  match flags ['r'] args with
  | .error c => refuse s (badOption c)
  | .ok (letters, args) =>
    if !letters.isEmpty then { s with found := [], status := 0 }
    else if args.isEmpty then s.say (printed ((State.inLists 31 (·.1) s.found).map (·.2)))
    else
      args.foldl
        (fun s name =>
          let s := { s with found := s.found.filter (·.1 != name) }
          if (specials.lookup name).isSome || (plains.lookup name).isSome then s
          else
            match s.program? name with
            | some path => s.remember name path
            | none => (s.complain (name ++ ": not found")).withStatus 1)
        (s.withStatus 0)

/-- The command of a name, with its rank. -/
def ofName? (name : Text) : Option (Rank × Own) :=
  match specials.lookup name with
  | some run => some (.special, run)
  | none =>
    if name = "type".toList then some (.plain, describe)
    else if name = "hash".toList then some (.plain, hash)
    else (plains.lookup name).map fun run => (.plain, run)

end AliasShell.Script.Own
