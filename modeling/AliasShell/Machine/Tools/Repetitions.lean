/-
The tool that looks for lines that repeat the one before.

Lines that follow each other and do not differ in what is compared of them make a run.  What is
written of a run depends on its length alone, so a run is kept as its lines.
-/
import AliasShell.Machine.Tools.Contents

namespace AliasShell.Tools

namespace Repetitions

/-! ### Runs -/

/-- What of a line is compared. -/
structure Part where
  fields : Nat := 0
  bytes : Nat := 0
  length : Option Nat := none
  folds : Bool := false

/-- A byte between fields. -/
def isGap (b : UInt8) : Bool := b == 32 || b == 9 || b == 10

/-- What is left of a line behind its first field. -/
def behindField (b : Bytes) : Bytes := (b.dropWhile isGap).dropWhile fun x => !isGap x

/-- What is left of a line behind so many fields. -/
def behindFields : Nat → Bytes → Bytes
  | 0, b => b
  | _, [] => []
  | n + 1, b => behindFields n (behindField b)

/-- What of a line is compared with others. -/
def Part.key (k : Part) (line : Bytes) : Bytes :=
  let rest := (behindFields k.fields line).drop k.bytes
  let rest := match k.length with
    | some n => rest.take n
    | none => rest
  if k.folds then rest.map fun c => if 97 ≤ c && c ≤ 122 then c - 32 else c else rest

/-- Runs of lines with the same key. -/
def runs (k : Part) : List Bytes → List (List Bytes)
  | [] => []
  | line :: lines =>
    match runs k lines with
    | (next :: run) :: more =>
      if k.key line = k.key next then (line :: next :: run) :: more
      else [line] :: (next :: run) :: more
    | more => [line] :: more

/-! ### What is written of a run -/

/-- Where an empty line goes that keeps runs apart. -/
inductive Gap where
  | before
  | after
  | between
  | around
  deriving Repr, DecidableEq

/-- Which lines of runs are written. -/
structure Choice where
  /-- lines that are alone -/
  single : Bool := true
  /-- one line of each longer run -/
  one : Bool := true
  /-- the other lines of longer runs -/
  others : Bool := false
  counts : Bool := false

/-- A line behind the length of its run. -/
def counted (n : Nat) (line : Bytes) : Bytes :=
  let ds := Integer.digits n
  Text.bytes (List.replicate (7 - ds.length) ' ' ++ ds ++ [' ']) ++ line

/-- The lines that are written of a run. -/
def Choice.lines (c : Choice) (run : List Bytes) : List Bytes :=
  let first := (run.take 1).map fun line => if c.counts then counted run.length line else line
  if run.length = 1 then if c.single then first else []
  else if c.others then run.dropLast ++ if c.one then run.drop (run.length - 1) else []
  else if c.one then first else []

/-- The lines of runs of which only those with more than one line are told apart, by empty lines in
front of them. -/
def Choice.spaced (c : Choice) (gap : Option Gap) (found : List (List Bytes)) : List Bytes :=
  let shown := found.filterMap fun run =>
    let lines := c.lines run
    if run.length = 1 then if lines.isEmpty then none else some (false, lines)
    else some (true, lines)
  (shown.foldl
    (fun (done, seen) (isLong, lines) =>
      let apart := isLong && (gap = some .before || (gap = some .between && seen))
      (done ++ (if apart then [[]] else []) ++ lines, seen || isLong))
    (([] : List Bytes), false)).1

/-- All lines, with runs kept apart. -/
def grouped (gap : Gap) (found : List (List Bytes)) : List Bytes :=
  let inner := ([([] : Bytes)] : List Bytes).intercalate found
  if found.isEmpty then []
  else
    (if gap = .before ∨ gap = .around then [[]] else []) ++ inner ++
      (if gap = .after ∨ gap = .around then [[]] else [])

/-! ### The tool -/

/-- The letters that are known. -/
def letters : Letters :=
  { plain := "cdDiuz0123456789", valued := "fsw", loose := "αγ"
    long := [("count", 'c'), ("repeated", 'd'), ("all-repeated", 'α'), ("group", 'γ'),
      ("ignore-case", 'i'), ("unique", 'u'), ("skip-fields", 'f'), ("skip-chars", 's'),
      ("check-chars", 'w'), ("zero-terminated", 'z')]
    usage := "[OPTION]... [INPUT [OUTPUT]]" }

/-- The words for gaps between runs that are told apart. -/
def repeatedWords : List (String × Option Gap) :=
  [("none", none), ("prepend", some .before), ("separate", some .between)]

/-- The words for gaps between all runs. -/
def groupWords : List (String × Gap) :=
  [("prepend", .before), ("append", .after), ("separate", .between), ("both", .around)]

/-- The number of fields that are left out, which may also be an option of its own. -/
def fieldsOf (a : Asked) : Nat :=
  (a.options.foldl
    (fun (n, isOld) (c, t) =>
      if c = 'f' then ((count? t).getD 0, false)
      else if c.isDigit then (10 * (if isOld then n else 0) + (c.toNat - '0'.toNat), true)
      else (n, isOld))
    ((0 : Nat), false)).1

/-- What is compared, as it is asked for. -/
def partOf (p : Process) (a : Asked) : Except Aftermath Part := do
  for (c, t) in a.options do
    let what : String := if c = 'f' then "fields to skip"
      else if c = 's' then "bytes to skip" else "bytes to compare"
    if "fsw".toList.contains c && (count? t).isNone then
      failWith p 1 (t ++ ": invalid number of ".toList ++ what.toList)
  let old := (a.operands.filterMap fun t =>
    match t with
    | '+' :: ds => count? ds
    | _ => none).getLast?
  return { fields := fieldsOf a, bytes := (old.or ((a.value? 's').bind count?)).getD 0,
           length := (a.value? 'w').bind count?, folds := a.has 'i' }

/-- The lines to write, as they are asked for. -/
def shownLines (p : Process) (a : Asked) : Except Aftermath (List (List Bytes) → List Bytes) := do
  let gap ← match a.value? 'α' with
    | some t => if t.isEmpty then .ok none else choose p "all-repeated" repeatedWords t
    | none => .ok none
  let group ← match a.value? 'γ' with
    | some t => (if t.isEmpty then .ok .between else choose p "group" groupWords t).map some
    | none => .ok none
  let all := a.has 'D' || a.has 'α'
  if group.isSome && (a.hasAny "cdu" || all) then
    failMisused p 1 "--group is mutually exclusive with -c/-d/-D/-u"
  if a.has 'c' && all then
    failMisused p 1 "printing all duplicated lines and repeat counts is meaningless"
  match group with
  | some gap => return grouped gap
  | none =>
    let choice : Choice :=
      { single := !(a.has 'd' || all), one := !a.has 'u', others := all, counts := a.has 'c' }
    return choice.spaced gap

end Repetitions

open Repetitions in
/-- Lines without those that repeat the one before. -/
def uniq : Tool :=
  taking letters 1 fun p a => settle do
    let part ← partOf p a
    let isOld (t : Text) : Bool := match t with
      | '+' :: ds => (count? ds).isSome
      | _ => false
    let names := a.operands.filter fun t => !isOld t
    if let _ :: _ :: t :: _ := names then
      failMisused p 1 ("extra operand " ++ Quoting.cited t)
    let shown ← shownLines p a
    let zeros := a.has 'z'
    let (found, rest) := contents p (orInput (names.take 1))
    let content := (found.head?.map (·.2)).getD (.ok [])
    let name := names.headD ['-']
    match content with
    | .error .isDirectory =>
      return { p.refuse 1 ("error reading " ++ Quoting.always name ++ ": " ++
        SysError.isDirectory.reason) with input := rest }
    | .error e => return { p.refuse 1 (fileFault name e) with input := rest }
    | .ok b =>
      let out := onZeros zeros (fun b => unlines (shown (runs part b.lines))) b
      match names.drop 1 with
      | name :: _ =>
        if name = ['-'] then return conclude p rest [(.output, out)]
        match p.files.modify name fun _ => out with
        | .ok files => return { conclude p rest [] with files }
        | .error e => return p.refuse 1 (fileFault name e)
      | [] => return conclude p rest [(.output, out)]

end AliasShell.Tools
