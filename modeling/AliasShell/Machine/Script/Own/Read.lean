/-
Commands of a script's own that take things apart: a line of input, and the options among arguments.
-/
import AliasShell.Machine.Script.Expand
import AliasShell.Machine.Script.Own.Basic

namespace AliasShell.Script.Own

/-! ### A line of input -/

/-- A line of bytes: each byte with whether a backslash shields it, the bytes after the line, and
whether the line has an end.  In a raw line a backslash is nothing special; in another one a
shielded line end is left out. -/
def readLine (raw : Bool) : Bytes → List (UInt8 × Bool) × Bytes × Bool
  | [] => ([], [], false)
  | 92 :: c :: rest =>
    if raw then
      let (line, after, ended) := readLine raw (c :: rest)
      ((92, false) :: line, after, ended)
    else
      let (line, after, ended) := readLine raw rest
      (if c = 10 then line else (c, true) :: line, after, ended)
  | c :: rest =>
    if c = 10 then ([], rest, true)
    else
      let (line, after, ended) := readLine raw rest
      (if c = 92 && !raw then line else (c, false) :: line, after, ended)

/-- A byte of a line as a separator. -/
inductive Separator where
  | none
  | blank
  | mark
  deriving Repr, DecidableEq

/-- What a byte of a line separates. -/
def separator (ifs : Text) (b : UInt8 × Bool) : Separator :=
  let c := Char.ofNat b.1.toNat
  if b.2 || 128 ≤ b.1 || !ifs.contains c then .none
  else if Sum.isSpace c then .blank
  else .mark

/-- A line without its first field and what separates that from the next one, and the field. -/
def cutField (ifs : Text) (line : List (UInt8 × Bool)) :
    List (UInt8 × Bool) × List (UInt8 × Bool) :=
  let field := line.takeWhile fun b => separator ifs b = .none
  let rest := (line.drop field.length).dropWhile fun b => separator ifs b = .blank
  let rest := match rest with
    | b :: more =>
      if separator ifs b = .mark then more.dropWhile fun b => separator ifs b = .blank else rest
    | [] => []
  (field, rest)

/-- The last of the fields that are asked for, which takes what is left. -/
def lastField (ifs : Text) (line : List (UInt8 × Bool)) : List (UInt8 × Bool) :=
  match cutField ifs line with
  | (field, []) => field
  | _ => (line.reverse.dropWhile fun b => separator ifs b = .blank).reverse

/-- As many fields of a line as there are names. -/
def fieldsFor (ifs : Text) : List Text → List (UInt8 × Bool) → List (Text × Text)
  | [], _ => []
  | [name], line => [(name, Bytes.numbered ((lastField ifs line).map (·.1)))]
  | name :: names, line =>
    let (field, rest) := cutField ifs line
    (name, Bytes.numbered (field.map (·.1))) :: fieldsFor ifs names rest

/-- Reads a line of the input into variables. -/
def read : Own := fun _ args s =>
  match flags "rp" args with
  | .error c => refuse s (badOption c)
  | .ok (letters, args) =>
    let names := if letters.contains 'p' then args.drop 1 else args
    if names.isEmpty then refuse s "arg count"
    else
      let (line, rest, ended) := readLine (letters.contains 'r') (s.readable 0).1
      let s := s.leaveUnread 0 rest
      let ifs := s.fieldSeparators
      let line := line.dropWhile fun b => separator ifs b = .blank
      let s := (fieldsFor ifs names line).foldl
        (fun s (name, value) => if s.running then s.setVar name value else s) s
      if s.running then s.withStatus (if ended then 0 else 1) else s

/-! ### Options among arguments -/

/-- The letters that are options, and whether they take an argument. -/
def optionSpec : Text → List (Char × Bool)
  | [] => []
  | c :: ':' :: cs => (c, true) :: optionSpec cs
  | c :: cs => (c, false) :: optionSpec cs

/-- What is found where an option is looked for. -/
structure Found where
  /-- what the variable becomes -/
  letter : Char
  /-- what `OPTARG` becomes; it is left alone if there is no option -/
  argument : Option (Option Text)
  complaint : Option Text
  /-- what `OPTIND` becomes -/
  next : Nat
  /-- how many characters of the argument before that are dealt with; 0 if all are -/
  offset : Nat

/-- What is found after all options. -/
def Found.none (next : Nat) : Found := ⟨'?', .none, .none, next, 0⟩

/-- The option `c`, which the text `more` follows in its argument; `given` are the arguments from
the next one on, and `offset` is how far this one is dealt with. -/
def findOption (spec : Text) (given : List Text) (next offset : Nat) (c : Char) (more : Text) :
    Found :=
  let quiet := spec.head? = some ':'
  let offset := if more.isEmpty then 0 else offset
  match (optionSpec spec).lookup c with
  | .none =>
    if quiet then ⟨'?', some (some [c]), .none, next, offset⟩
    else ⟨'?', some .none, some ("Illegal option -" ++ [c]), next, offset⟩
  | some false => ⟨c, some (some []), .none, next, offset⟩
  | some true =>
    if !more.isEmpty then ⟨c, some (some more), .none, next, 0⟩
    else
      match given with
      | arg :: _ => ⟨c, some (some arg), .none, next + 1, 0⟩
      | [] =>
        if quiet then ⟨':', some (some [c]), .none, next, 0⟩
        else ⟨'?', some .none, some ("No arg for -" ++ c :: " option"), next, 0⟩

/-- Looks for the next option among arguments: from the argument `next` on, or within the one before
it if it is only dealt with up to `offset`. -/
def nextOption (spec : Text) (given : List Text) (next offset : Nat) : Found :=
  let current := if offset = 0 then [] else ((given[next - 2]?).getD []).drop offset
  match current with
  | c :: more => findOption spec (given.drop (next - 1)) next (offset + 1) c more
  | [] =>
    match given[next - 1]? with
    | some ['-', '-'] => Found.none (next + 1)
    | some ('-' :: c :: more) => findOption spec (given.drop next) (next + 1) 2 c more
    | _ => Found.none next

/-- Finds the next option among arguments. -/
def getopts : Own := fun _ args s =>
  match args with
  | spec :: name :: rest =>
    let given := if rest.isEmpty then s.args else rest
    let next := max 1 ((number? (s.var "OPTIND")).getD 1)
    let found := nextOption spec given next s.optionAt
    let s := match found.complaint with
      | some t => (s.send 2 (t ++ ['\n']).bytes).1
      | .none => s
    let s := match found.argument with
      | some (some t) => s.setVar "OPTARG" t
      | some .none => s.forget "OPTARG"
      | .none => s
    let s := s.setVar "OPTIND" (Integer.digits found.next)
    let s := { s.setVar name [found.letter] with optionAt := found.offset }
    if s.running then s.withStatus (if found.argument.isNone then 1 else 0) else s
  | _ => refuse s "Usage: getopts optstring var [arg...]"

end AliasShell.Script.Own
