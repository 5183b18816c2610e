/-
Lines that go on by a rule: numbers in equal steps, and the same line for ever.

Numbers without places are counted exactly, however large they are.  All others are kept to so many
binary digits, each one being the first plus so many steps.  The number just past the end belongs
to the series if in its text it is the last one.
-/
import AliasShell.Machine.Format
import AliasShell.Machine.Tools.Basic

namespace AliasShell.Tools

namespace Series

/-! ### Bounds -/

/-- A number that an argument gives. -/
structure Bound where
  value : Quantity := .finite false 1 1
  /-- how long it is where it is written with its places -/
  width : Int := 1
  /-- the digits behind its point, if it says how many there are -/
  places : Option Nat := some 0
  deriving Repr, DecidableEq

/-- How long a number is, and how many places it has, where it has an exponent or not. -/
def extent (t : Text) : Int × Nat :=
  let isExponent (c : Char) : Bool := c == 'e' || c == 'E'
  let (front, back) := (Text.cutFirst (· == '.') t).getD (t, [])
  let pointed := t.contains '.'
  let places := (back.takeWhile fun c => !isExponent c).length
  let pointWidth : Int :=
    if !pointed then 0
    else if places = 0 then -1
    else if (front.getLast?).any Char.isDigit then 0 else 1
  let width : Int := (t.length : Int) + pointWidth
  match Text.cutFirst isExponent t with
  | none => (width, places)
  | some (mantissa, e) =>
    let power := (Integer.ofText? e).getD 0
    let width := width - ((t.length : Int) - mantissa.length)
    if power < 0 then
      let missing := !pointed || mantissa.getLast? = some '.'
      (width + (if missing then 1 else 0) - power, places + power.natAbs)
    else
      let left := places - min places power.toNat
      let width := if pointed && left = 0 && places != 0 then width - 1 else width
      (width + (power - min (places : Int) power), left)

/-- The number that an argument gives. -/
def bound? (t : Text) : Except Text Bound :=
  let refused : Except Text Bound :=
    .error ("invalid floating point argument: " ++ Quoting.cited t)
  let isPlain := !(t.any "xX".toList.contains)
  let mayHavePlaces := t.contains '.' || t.contains 'p'
  match Quantity.read? .extended t with
  | some ⟨.nan _, [], _⟩ => .error ("invalid 'not-a-number' argument: " ++ Quoting.cited t)
  | some ⟨.infinite negative, [], false⟩ =>
    .ok ⟨.infinite negative, 0, if mayHavePlaces then none else some 0⟩
  | some ⟨.finite negative num den, [], outOfRange⟩ =>
    let value := Quantity.finite negative num den
    if outOfRange && num != 0 then refused
    else if isPlain then
      let (width, places) := extent (t.dropWhile fun c => Quantity.isBlank c || c == '+')
      .ok ⟨value, width, some places⟩
    else .ok ⟨value, 0, if mayHavePlaces then none else some 0⟩
  | _ => refused

/-! ### The text of a number -/

/-- How a number is written. -/
structure Template where
  front : Text := []
  flags : Text := []
  width : Nat := 0
  places : Option Nat := none
  kind : Char := 'g'
  back : Text := []
  deriving Repr, DecidableEq

namespace Template

/-- The text without what stands around it. -/
def inner (f : Template) (x : Quantity) : Text :=
  let t := Format.quantityText .extended f.flags f.width f.places f.kind x
  let blanks := List.replicate (f.width - t.length) ' '
  if f.flags.contains '-' then t ++ blanks else blanks ++ t

/-- The text of a number. -/
def text (f : Template) (x : Quantity) : Text := f.front ++ f.inner x ++ f.back

end Template

/-- The text up to the first `%` that is not doubled, and what is behind that. -/
def untilPlace : Text → Text × Option Text
  | [] => ([], none)
  | ['%'] => ([], some [])
  | '%' :: '%' :: cs =>
    let (front, rest) := untilPlace cs
    ('%' :: front, rest)
  | '%' :: cs => ([], some cs)
  | c :: cs =>
    let (front, rest) := untilPlace cs
    (c :: front, rest)

/-- The template that a format describes. -/
def template? (t : Text) : Except Text Template :=
  let refused (reason : Text) : Except Text Template :=
    .error ("format " ++ Quoting.cited t ++ ' ' :: reason)
  match untilPlace t with
  | (_, none) => refused "has no % directive"
  | (front, some rest) =>
    let flags := rest.takeWhile "-+#0 '".toList.contains
    let rest := rest.drop flags.length
    let width := rest.takeWhile Char.isDigit
    let rest := rest.drop width.length
    let (places, rest) : Option Nat × Text := match rest with
      | '.' :: more =>
        let ds := more.takeWhile Char.isDigit
        (some (Integer.ofDigits ds), more.drop ds.length)
      | _ => (none, rest)
    let rest := if rest.head? = some 'L' then rest.drop 1 else rest
    match rest with
    | [] => refused "ends in %"
    | kind :: rest =>
      if !"efgaEFGA".toList.contains kind then
        refused ("has unknown %" ++ kind :: " directive".toList)
      else
        match untilPlace rest with
        | (_, some _) => refused "has too many % directives"
        | (back, none) => .ok ⟨front, flags, Integer.ofDigits width, places, kind, back⟩

/-- How numbers are written if nothing else is asked for. -/
def usual (equalWidth : Bool) (first step last : Bound) : Template :=
  match first.places, step.places, last.places with
  | some a, some b, some c =>
    let places := max a b
    if equalWidth then
      let firstWidth := first.width + ((places : Int) - a) + if a = 0 ∧ places ≠ 0 then 1 else 0
      let lastWidth := last.width + ((places : Int) - c) +
        if c ≠ 0 ∧ places = 0 then -1 else if c = 0 ∧ places ≠ 0 then 1 else 0
      { flags := ['0'], width := (max firstWidth lastWidth).toNat, places, kind := 'f' }
    else { places, kind := 'f' }
  | _, _, _ => {}

/-! ### The numbers -/

/-- How many numbers are written at most. -/
def most (p : Process) : Nat :=
  match p.outlet with
  | .upTo n => n + 1
  | _ => Process.endless

/-- Whole numbers in steps. -/
def whole (p : Process) (first step : Nat) (last : Option Nat) (separator : Text) : Text :=
  let count := match last with
    | some last => if last < first then 0 else (last - first) / step + 1
    | none => most p
  if count = 0 then []
  else
    separator.intercalate
      ((List.range (min count (most p))).map fun i => Integer.digits (first + i * step)) ++ ['\n']

/-- The numbers up to the last one, and the first one past it if it is reached.  They are the first
number plus `i`, `i + 1` and so on steps; at most `n`.  Those in front are kept in reverse. -/
def upTo (first step last : Quantity) : Nat → Nat → List Quantity → List Quantity × Option Quantity
  | 0, _, front => (front.reverse, none)
  | n + 1, i, front =>
    let x := if i = 0 then first else Quantity.plus .extended first i step
    let beyond := if step.isNegative then Quantity.less x last else Quantity.less last x
    if beyond then (front.reverse, some x) else upTo first step last n (i + 1) (x :: front)

/-- The texts of the numbers. -/
def members (p : Process) (f : Template) (first step last : Quantity) : List Text :=
  let (xs, past) := upTo first step last (most p) 0 []
  let texts := xs.map f.text
  match past, texts.getLast? with
  | some x, some t =>
    let isLast := match Quantity.read? .extended (f.inner x) with
      | some ⟨value, [], false⟩ => value.same last
      | _ => false
    if isLast && f.text x != t then texts ++ [f.text x] else texts
  | _, _ => texts

/-! ### The tool -/

/-- Its options. -/
def letters : Letters :=
  { plain := "w", valued := "fs", anywhere := false,
    long := [("equal-width", 'w'), ("format", 'f'), ("separator", 's')],
    usage := "[OPTION]... LAST" }

/-- An argument that is a negative number. -/
def isNegative : Text → Bool
  | '-' :: c :: _ => c.isDigit || c == '.'
  | _ => false

/-- The options in front of the numbers; at most `n` arguments are looked at. -/
def asked : Nat → List Text → Except Text Asked
  | 0, args => .ok ⟨[], args⟩
  | n + 1, args => do
    if args.head?.any isNegative then return ⟨[], args⟩
    let a ← readAsked letters 1 args
    if a.options.isEmpty ∨ a.has helpLetter = true ∨ a.has versionLetter = true then return a
    let more ← asked n a.operands
    return { more with options := a.options ++ more.options }

/-- The number that all of these digits are. -/
def digits? (t : Text) : Option Nat :=
  if !t.isEmpty && t.all Char.isDigit then some (Integer.ofDigits t) else none

/-- The greatest step that is counted exactly. -/
def greatestStep : Nat := 200

/-- The whole number of a bound that has no places. -/
def wholeOf? (b : Bound) : Option Nat :=
  match b.places, b.value with
  | some 0, .finite false num den => some (num / den)
  | _, _ => none

/-- The first number, the step and the last number that arguments give. -/
def bounds (args : List Text) : Except Text (Bound × Bound × Bound) := do
  match args with
  | [last] => return ({}, {}, ← bound? last)
  | [first, last] => return (← bound? first, {}, ← bound? last)
  | first :: step :: last :: _ =>
    let x ← bound? first
    let y ← bound? step
    if y.value.isZero then throw ("invalid Zero increment value: " ++ Quoting.cited step)
    return (x, y, ← bound? last)
  | [] => throw "missing operand".toList

/-- The series that arguments ask for. -/
def shown (p : Process) (a : Asked) : Except Aftermath Aftermath := do
  let known {α : Type} (x : Except Text α) : Except Aftermath α :=
    match x with
    | .ok x => .ok x
    | .error t => failMisused p 1 t
  if a.operands.isEmpty then failMisused p 1 "missing operand"
  if let some t := a.operands[3]? then
    failMisused p 1 ("extra operand ".toList ++ Quoting.cited t)
  let given ← match a.value? 'f' with
    | none => pure none
    | some t =>
      match template? t with
      | .ok f => pure (some f)
      | .error t => failWith p 1 t
  if given.isSome && a.has 'w' then
    failMisused p 1 "format string may not be specified when printing equal width strings"
  let separator := (a.value? 's').getD ['\n']
  let isPlain := given.isNone && !a.has 'w' && separator.length = 1
  let stepOf (n : Nat) : Option Nat := if 0 < n ∧ n ≤ greatestStep then some n else none
  let exact : Option (Nat × Nat × Nat) := match a.operands.map digits? with
    | [some last] => some (1, 1, last)
    | [some first, some last] => some (first, 1, last)
    | [some first, some step, some last] => (stepOf step).map fun step => (first, step, last)
    | _ => none
  match isPlain, exact with
  | true, some (first, step, last) => return p.say (whole p first step (some last) separator)
  | _, _ =>
    let (first, step, last) ← known (bounds a.operands)
    let infinite := last.value == .infinite false && last.places == some 0
    match isPlain, wholeOf? first, (wholeOf? step).bind stepOf, infinite, wholeOf? last with
    | true, some x, some y, true, _ => return p.say (whole p x y none separator)
    | true, some x, some y, false, some z => return p.say (whole p x y (some z) separator)
    | _, _, _, _, _ =>
      let f := given.getD (usual (a.has 'w') first step last)
      match members p f first.value step.value last.value with
      | [] => return p.say []
      | texts => return p.say (separator.intercalate texts ++ ['\n'])

end Series

/-- Numbers from one to another. -/
def seq : Tool := fun p =>
  match Series.asked p.args.length p.args with
  | .error t => misused p 1 t
  | .ok a => (aboutSelf? p Series.letters a).getD (settle (Series.shown p a))

/-- One line for as long as anybody reads. -/
def yes : Tool :=
  taking { plain := [], usage := "[STRING]..." } 1 fun p a =>
    let line := (if a.operands.isEmpty then ['y'] else Text.unwords a.operands) ++ ['\n']
    p.say ((List.replicate (p.wanted / line.length + 1) line).flatten)

end AliasShell.Tools
