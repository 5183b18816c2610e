/-
Commands of a script's own for variables, arguments and options.
-/
import AliasShell.Machine.Script.Own.Basic

namespace AliasShell.Script.Own

/-! ### Variables -/

/-- Name and value of an argument, which need not have a value. -/
def setting (arg : Text) : Text × Option Text :=
  match arg.cutFirst (· == '=') with
  | some (name, value) => (name, some value)
  | none => (arg, none)

/-- A variable as a line that a script reads back. -/
def line (front : Text) (v : Variable) : Text :=
  front ++ v.name ++
    match v.value with
    | some t => '=' :: quoted t
    | none => []

/-- The variables of a kind as lines, by name. -/
def listing (s : State) (front : Text) (wanted : Variable → Bool) : List Text :=
  sortedByName ((s.vars.filter wanted).map fun v => (v.name, line front v))

/-- Changes a variable after giving it the value that the argument may have. -/
def declare (mark : Variable → Variable) (s : State) (arg : Text) : State :=
  if !s.running then s
  else
    let (name, value) := setting arg
    if !Word.isName name then s.fail (name ++ ": bad variable name")
    else
      let s := match value with
        | some t => s.setVar name t
        | none => s
      if s.running then s.change name mark else s

/-- Changes the variables that the arguments name, or lists those that are as it would make them. -/
def declaring (front : Text) (isMarked : Variable → Bool) (mark : Variable → Variable) : Own :=
  fun _ args s =>
    match flags ['p'] args with
    | .error c => s.fail (badOption c)
    | .ok (letters, args) =>
      if !letters.isEmpty || args.isEmpty then s.say (printed (listing s front isMarked))
      else args.foldl (declare mark) (s.withStatus 0)

/-- Lets programs find variables. -/
def exportVars : Own :=
  declaring "export " Variable.exported fun v => { v with exported := true }

/-- Makes variables keep their values. -/
def protect : Own :=
  declaring "readonly " Variable.readOnly fun v => { v with readOnly := true }

/-- Forgets variables or functions. -/
def unset : Own := fun _ args s =>
  match flags "fv" args with
  | .error c => s.fail (badOption c)
  | .ok (letters, args) =>
    args.foldl
      (fun s name =>
        if !s.running then s
        else if letters.getLast? = some 'f' then
          { s with functions := s.functions.filter (·.1 != name) }
        else if !Word.isName name then s.fail (name ++ ": bad variable name")
        else if (s.known? name).any Variable.readOnly then s.fail (name ++ ": is read only")
        else s.forget name)
      (s.withStatus 0)

/-- Makes variables that are as they were when the function ends. -/
def localVars : Own := fun _ args s =>
  match s.hidden with
  | [] => s.fail "not in a function"
  | frame :: frames =>
    let news := args.map fun arg => (setting arg).1
    let kept := news.filter fun name => (frame.lookup name).isNone
    let frame := kept.map (fun name => (name, s.known? name)) ++ frame
    args.foldl
      (fun s arg => if arg = ['-'] then s else declare id s arg)
      { s with hidden := frame :: frames, status := 0 }

/-! ### Arguments and options -/

/-- The options: their letters and their names, in the order in which they are listed. -/
def optionNames : List (Option Char × Text) :=
  [(some 'e', "errexit"), (some 'f', "noglob"), (some 'I', "ignoreeof"), (some 'i', "interactive"),
    (some 'm', "monitor"), (some 'n', "noexec"), (some 's', "stdin"), (some 'x', "xtrace"),
    (some 'v', "verbose"), (some 'V', "vi"), (some 'E', "emacs"), (some 'C', "noclobber"),
    (some 'a', "allexport"), (some 'b', "notify"), (some 'u', "nounset"), (some 'p', "privileged"),
    (none, "nolog"), (none, "debug")]

/-- The letters of the options. -/
def optionLetters : Text := optionNames.filterMap (·.1)

/-- The state with an option on or off; letters are kept in the order of the options. -/
def turn (turnsOn : Bool) (letter : Char) (s : State) : State :=
  { s with options := optionLetters.filter fun c =>
      if c = letter then turnsOn else s.options.contains c }

/-- The options and whether they are on. -/
def optionTable (s : State) : List Text :=
  "Current option settings".toList :: optionNames.map fun (letter, name) =>
    name ++ List.replicate (16 - name.length) ' ' ++
      if letter.any s.has then "on".toList else "off".toList

/-- The options as commands that set them. -/
def optionCommands (s : State) : List Text :=
  optionNames.map fun (letter, name) =>
    "set ".toList ++ (if letter.any s.has then '-' else '+') :: "o ".toList ++ name

/-- Letters after a sign; an `o` takes the next argument for a name. -/
def turnAll (turnsOn : Bool) : List Char → List Text → State → State × List Text
  | [], args, s => (s, args)
  | 'o' :: cs, args, s =>
    match args with
    | [] =>
      let (s, args) := turnAll turnsOn cs [] s
      (if s.running then s.say (printed (if turnsOn then optionTable s else optionCommands s))
        else s, args)
    | name :: args =>
      match optionNames.find? fun o => o.2 == name with
      | some (some letter, _) => turnAll turnsOn cs args (turn turnsOn letter s)
      | some (none, _) => turnAll turnsOn cs args s
      | none => (s.fail ("Illegal option " ++ (if turnsOn then '-' else '+') :: "o " ++ name), [])
  | c :: cs, args, s =>
    if optionLetters.contains c then turnAll turnsOn cs args (turn turnsOn c s)
    else (s.fail ("Illegal option " ++ (if turnsOn then '-' else '+') :: [c]), [])

/-- Options in front, and the arguments after them if there are any to be set; at most `n`. -/
def readOptions : Nat → List Text → State → State × Option (List Text)
  | _, [], s => (s, none)
  | 0, args, s => (s, some args)
  | n + 1, arg :: args, s =>
    match arg with
    | ['-', '-'] => (s, some args)
    | ['-'] => (turn false 'x' (turn false 'v' s), if args.isEmpty then none else some args)
    | '-' :: c :: cs =>
      let (s, args) := turnAll true (c :: cs) args s
      if s.running then readOptions n args s else (s, none)
    | '+' :: cs =>
      let (s, args) := turnAll false cs args s
      if s.running then readOptions n args s else (s, none)
    | _ => (s, some (arg :: args))

/-- Sets options and arguments, or lists the variables. -/
def set : Own := fun _ args s =>
  if args.isEmpty then s.say (printed (listing s [] fun v => v.value.isSome))
  else
    match readOptions args.length args (s.withStatus 0) with
    | (s, some args) => { s with args, optionAt := 0 }
    | (s, none) => s

/-- Drops arguments from the front. -/
def shift : Own := fun _ args s =>
  let n? := match args with
    | [] => some 1
    | t :: _ => number? t
  match n? with
  | none => s.fail (notNumber (args.headD []))
  | some n =>
    if s.args.length < n then s.fail "can't shift that many"
    else { s with args := s.args.drop n, status := 0, optionAt := 0 }

/-! ### Aliases -/

/-- Sets aliases or shows them. -/
def setAliases : Own := fun _ args s =>
  let shown (e : Text × Text) : Text := e.1 ++ '=' :: quoted e.2
  if args.isEmpty then
    s.say (printed (sortedByName (s.aliases.map fun e => (e.1, shown e))))
  else
    args.foldl
      (fun s arg =>
        match setting arg with
        | (c :: name, some t) =>
          let rest := s.aliases.filter fun e => e.1 != c :: name
          { s with aliases := rest ++ [(c :: name, t)] }
        | _ =>
          match s.aliases.lookup arg with
          | some t =>
            let status := s.status
            (s.say (printed [shown (arg, t)])).withStatus status
          | none => (s.sayWrong (arg ++ " not found")).withStatus 1)
      (s.withStatus 0)

/-- Forgets aliases. -/
def forgetAliases : Own := fun _ args s =>
  if args.head? = some ['-', 'a'] then { s with aliases := [], status := 0 }
  else
    args.foldl
      (fun s name =>
        if (s.aliases.lookup name).isSome then
          { s with aliases := s.aliases.filter (·.1 != name) }
        else (s.sayWrong (name ++ " not found")).withStatus 1)
      (s.withStatus 0)

end AliasShell.Script.Own
