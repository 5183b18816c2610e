/-
Sums: the arithmetic of scripts, on 64-bit integers that wrap around.

    assignment := name ('=' | op '=') assignment | choice
    choice     := or ('?' assignment ':' choice)?
    or, and    := operands joined by '||' and by '&&'
    operand    := binary operators by their levels, grouped to the left
    primary    := number | name | '(' assignment ')' | ('+' | '-' | '!' | '~') primary

Whatever a text holds, it is read whole and then evaluated.  A place where something else belongs is
a part of the expression without a value, so what stands in front of it is evaluated first.  What is
not needed of an expression is not evaluated, so it sets no variable and divides nothing, but it has
to be one.
-/
import AliasShell.Number.Integer
import AliasShell.Machine.Script.Syntax

namespace AliasShell.Script

/-- The operators between two numbers. -/
inductive SumOp where
  | mul | div | rem | add | sub | shiftLeft | shiftRight
  | lt | le | gt | ge | eq | ne | bitAnd | bitXor | bitOr
  deriving Repr, DecidableEq

/-- A sum that was read. -/
inductive Sum where
  | number (n : Int)
  | name (n : Text)
  | negate (a : Sum)
  | isZero (a : Sum)
  | complement (a : Sum)
  | binary (op : SumOp) (a b : Sum)
  | and (a b : Sum)
  | or (a b : Sum)
  | choice (test yes no : Sum)
  | assign (name : Text) (op : Option SumOp) (a : Sum)
  /-- something else belongs here -/
  | broken (wanted : Text)
  /-- something else belongs after it -/
  | cut (a : Sum) (wanted : Text)
  deriving Repr, DecidableEq

/-- Why a sum has no value. -/
inductive SumFault where
  | wanted (what : Text)
  | divisionByZero
  /-- a variable holds something else than a number -/
  | notNumber (t : Text)
  deriving Repr, DecidableEq

/-- The wording of a fault in the expression `t`. -/
def SumFault.message (t : Text) : SumFault → Text
  | .wanted what => "arithmetic expression: expecting " ++ what ++ ": \"" ++ t ++ ['"']
  | .divisionByZero => "arithmetic expression: division by zero: \"" ++ t ++ ['"']
  | .notNumber v => "Illegal number: " ++ v

namespace Sum

/-! ### Reading -/

/-- A character that separates and means nothing. -/
def isSpace (c : Char) : Bool := c == ' ' || c == '\t' || c == '\n'

/-- The parts of an expression. -/
inductive Token where
  | number (n : Int)
  | name (n : Text)
  | mark (t : Text)
  deriving Repr, DecidableEq

/-- The digits of a text in a base, and what follows them. -/
def digitsIn (base : Nat) (t : Text) : Text × Text :=
  let isDigitHere (c : Char) : Bool :=
    let v :=
      if c.isDigit then c.toNat - '0'.toNat
      else if c.isAlpha then c.toLower.toNat - 'a'.toNat + 10
      else base
    v < base
  t.span isDigitHere

/-- The number that digits denote in a base. -/
def valueIn (base : Nat) (ds : Text) : Nat :=
  ds.foldl
    (fun n c =>
      base * n + (if c.isDigit then c.toNat - '0'.toNat else c.toLower.toNat - 'a'.toNat + 10))
    0

/-- The number that a text begins with, and what follows it: `0x` begins sixteenths and `0` eighths.
-/
def readNumber (t : Text) : Option (Int × Text) :=
  let done (base : Nat) (ds rest : Text) : Option (Int × Text) :=
    if ds.isEmpty then none else some (valueIn base ds, rest)
  match t with
  | '0' :: x :: rest =>
    let (ds, after) := digitsIn 16 rest
    if (x = 'x' ∨ x = 'X') ∧ !ds.isEmpty then done 16 ds after
    else
      let (ds, after) := digitsIn 8 t
      done 8 ds after
  | _ =>
    let (ds, after) := digitsIn 10 t
    done 10 ds after

/-- The marks, longer ones before those that they begin with. -/
def marks : List Text :=
  ["<<=", ">>=", "<<", ">>", "<=", ">=", "==", "!=", "&&", "||", "+=", "-=", "*=", "/=", "%=",
    "&=", "^=", "|=", "+", "-", "*", "/", "%", "<", ">", "=", "!", "~", "&", "^", "|", "?", ":",
    "(", ")"].map String.toList

/-- The tokens of a text; at most `n`.  A number that is too large is the largest, and a character that begins none is a mark no rule takes. -/
def tokens : Nat → Text → List Token
  | 0, _ => []
  | _, [] => []
  | n + 1, c :: cs =>
    if isSpace c then tokens n cs
    else if Word.startsName c then
      let name := (c :: cs).takeWhile Word.isNameChar
      .name name :: tokens n ((c :: cs).drop name.length)
    else
      match readNumber (c :: cs) with
      | some (v, rest) => .number (min v Integer.greatest) :: tokens n rest
      | none =>
        match marks.find? fun m => m.isPrefixOf (c :: cs) with
        | some m => .mark m :: tokens n ((c :: cs).drop m.length)
        | none => .mark [c] :: tokens n cs

/-- The operators with their levels; higher ones bind more tightly. -/
def operators : List (Text × SumOp × Nat) :=
  [("*", .mul, 8), ("/", .div, 8), ("%", .rem, 8), ("+", .add, 7), ("-", .sub, 7),
    ("<<", .shiftLeft, 6), (">>", .shiftRight, 6), ("<", .lt, 5), ("<=", .le, 5), (">", .gt, 5),
    (">=", .ge, 5), ("==", .eq, 4), ("!=", .ne, 4), ("&", .bitAnd, 3), ("^", .bitXor, 2),
    ("|", .bitOr, 1)]

/-- The marks that end in `=` and compare. -/
def comparisons : List Text := ["<=", ">=", "==", "!="].map String.toList

/-- The operator of a mark that ends in `=` and assigns; none for `=` alone. -/
def assignment? (m : Text) : Option (Option SumOp) :=
  if m = ['='] then some none
  else if m.getLast? = some '=' ∧ !comparisons.contains m then
    (operators.lookup m.dropLast).map fun (op, _) => some op
  else none

mutual

/-- `assignment`. -/
def readAssignment : Nat → List Token → Sum × List Token
  | 0, _ => (.broken "primary", [])
  | n + 1, ts =>
    match ts with
    | .name x :: .mark m :: rest =>
      match assignment? m with
      | some op =>
        let (a, rest) := readAssignment n rest
        (.assign x op a, rest)
      | none => readChoice n ts
    | _ => readChoice n ts

/-- `choice`. -/
def readChoice : Nat → List Token → Sum × List Token
  | 0, _ => (.broken "primary", [])
  | n + 1, ts =>
    let (test, rest) := readOr n ts
    match rest with
    | .mark ['?'] :: rest =>
      let (yes, rest) := readAssignment n rest
      match rest with
      | .mark [':'] :: rest =>
        let (no, rest) := readChoice n rest
        (.choice test yes no, rest)
      | _ => (.choice test (.cut yes "':'") (.number 0), [])
    | _ => (test, rest)

/-- `or`. -/
def readOr : Nat → List Token → Sum × List Token
  | 0, _ => (.broken "primary", [])
  | n + 1, ts =>
    let (a, rest) := readAnd n ts
    match rest with
    | .mark ['|', '|'] :: rest =>
      let (b, rest) := readOr n rest
      (.or a b, rest)
    | _ => (a, rest)

/-- `and`. -/
def readAnd : Nat → List Token → Sum × List Token
  | 0, _ => (.broken "primary", [])
  | n + 1, ts =>
    let (a, rest) := readPrimary n ts
    let (a, rest) := readBinary n 1 a rest
    match rest with
    | .mark ['&', '&'] :: rest =>
      let (b, rest) := readAnd n rest
      (.and a b, rest)
    | _ => (a, rest)

/-- The operators from a level on that follow `a`. -/
def readBinary : Nat → Nat → Sum → List Token → Sum × List Token
  | n + 1, level, a, .mark m :: rest =>
    match operators.lookup m with
    | some (op, l) =>
      if l < level then (a, .mark m :: rest)
      else
        let (b, rest) := readPrimary n rest
        let (b, rest) := readBinary n (l + 1) b rest
        readBinary n level (.binary op a b) rest
    | none => (a, .mark m :: rest)
  | _, _, a, ts => (a, ts)

/-- `primary`. -/
def readPrimary : Nat → List Token → Sum × List Token
  | 0, _ => (.broken "primary", [])
  | n + 1, ts =>
    match ts with
    | .number v :: rest => (.number v, rest)
    | .name x :: rest => (.name x, rest)
    | .mark ['('] :: rest =>
      let (a, rest) := readAssignment n rest
      match rest with
      | .mark [')'] :: rest => (a, rest)
      | _ => (.cut a "')'", [])
    | .mark ['+'] :: rest => readPrimary n rest
    | .mark ['-'] :: rest =>
      let (a, rest) := readPrimary n rest
      (.negate a, rest)
    | .mark ['!'] :: rest =>
      let (a, rest) := readPrimary n rest
      (.isZero a, rest)
    | .mark ['~'] :: rest =>
      let (a, rest) := readPrimary n rest
      (.complement a, rest)
    | _ => (.broken "primary", [])

end

/-- The sum that a text holds. -/
def ofText (t : Text) : Sum :=
  let ts := tokens t.length t
  let (a, rest) := readAssignment (8 * ts.length + 8) ts
  if rest.isEmpty then a else .cut a "EOF"

/-! ### Values -/

/-- The 64-bit integer that is left of a number. -/
def wrap (i : Int) : Int := Int.bmod i 18446744073709551616

/-- The number for a truth. -/
def ofBool (b : Bool) : Int := if b then 1 else 0

/-- The bits of a number as a natural number. -/
def bits (i : Int) : Nat := (i % 18446744073709551616).toNat

/-- The value of an operator. -/
def apply (op : SumOp) (a b : Int) : Except SumFault Int :=
  match op with
  | .mul => .ok (wrap (a * b))
  | .div => if b = 0 then .error .divisionByZero else .ok (wrap (Int.tdiv a b))
  | .rem => if b = 0 then .error .divisionByZero else .ok (Int.tmod a b)
  | .add => .ok (wrap (a + b))
  | .sub => .ok (wrap (a - b))
  | .shiftLeft => .ok (wrap (a * Nat.pow 2 (b % 64).toNat))
  | .shiftRight => .ok (Int.fdiv a (Nat.pow 2 (b % 64).toNat))
  | .lt => .ok (ofBool (decide (a < b)))
  | .le => .ok (ofBool (decide (a ≤ b)))
  | .gt => .ok (ofBool (decide (b < a)))
  | .ge => .ok (ofBool (decide (b ≤ a)))
  | .eq => .ok (ofBool (a == b))
  | .ne => .ok (ofBool (a != b))
  | .bitAnd => .ok (wrap (Nat.land (bits a) (bits b)))
  | .bitXor => .ok (wrap (Nat.xor (bits a) (bits b)))
  | .bitOr => .ok (wrap (Nat.lor (bits a) (bits b)))

/-- The number that a text is, blanks around it left out; one that is empty is 0. -/
def numberOf (t : Text) : Except SumFault Int :=
  let body := t.dropWhile isSpace
  let (sign, ds) := match body with
    | '-' :: ds => ((-1 : Int), ds)
    | '+' :: ds => (1, ds)
    | ds => (1, ds)
  if body.isEmpty then .ok 0
  else
    match readNumber ds with
    | some (v, rest) =>
      let small := decide (Integer.least ≤ sign * v ∧ sign * v ≤ Integer.greatest)
      if small && rest.all isSpace then .ok (sign * v) else .error (.notNumber t)
    | none => .error (.notNumber t)

/-- The variables that were set so far, the last one first. -/
abbrev Settings := List (Text × Int)

/-- What evaluating leads to: a fault and the variables that were set before it, or a value. -/
abbrev Evaluation (α : Type) := Except (SumFault × Settings) α

/-- A fault after variables were set. -/
def after {α : Type} (set : Settings) : Except SumFault α → Evaluation α
  | .ok a => .ok a
  | .error f => .error (f, set)

/-- The value of a name. -/
def valueOf (look : Text → Text) (set : Settings) (n : Text) : Evaluation Int :=
  match set.lookup n with
  | some v => .ok v
  | none => after set (numberOf (look n))

/-- The first place where something else belongs. -/
def fault? : Sum → Option SumFault
  | .number _ | .name _ => none
  | .negate a | .isZero a | .complement a | .assign _ _ a => fault? a
  | .binary _ a b | .and a b | .or a b => (fault? a).orElse fun _ => fault? b
  | .choice a b c => (fault? a).orElse fun _ => (fault? b).orElse fun _ => fault? c
  | .broken wanted => some (.wanted wanted)
  | .cut a wanted => (fault? a).orElse fun _ => some (.wanted wanted)

/-- Leaves out a sum that is not needed. -/
def leaveOut (a : Sum) (set : Settings) : Evaluation Unit :=
  match fault? a with
  | some f => .error (f, set)
  | none => .ok ()

/-- The value of a sum, and the variables that it sets. -/
def value (look : Text → Text) : Sum → Settings → Evaluation (Int × Settings)
  | .number v, set => .ok (v, set)
  | .name x, set => do
    let v ← valueOf look set x
    return (v, set)
  | .negate a, set => do
    let (v, set) ← value look a set
    return (wrap (-v), set)
  | .isZero a, set => do
    let (v, set) ← value look a set
    return (ofBool (v == 0), set)
  | .complement a, set => do
    let (v, set) ← value look a set
    return (-v - 1, set)
  | .binary op a b, set => do
    let (v, set) ← value look a set
    let (w, set) ← value look b set
    let u ← after set (apply op v w)
    return (u, set)
  | .and a b, set => do
    let (v, set) ← value look a set
    if v = 0 then
      leaveOut b set
      return (0, set)
    else
      let (w, set) ← value look b set
      return (ofBool (w != 0), set)
  | .or a b, set => do
    let (v, set) ← value look a set
    if v != 0 then
      leaveOut b set
      return (1, set)
    else
      let (w, set) ← value look b set
      return (ofBool (w != 0), set)
  | .choice test yes no, set => do
    let (v, set) ← value look test set
    if v != 0 then
      let (w, set) ← value look yes set
      leaveOut no set
      return (w, set)
    else
      leaveOut yes set
      value look no set
  | .assign x op a, set => do
    let (v, set) ← value look a set
    match op with
    | none => return (v, (x, v) :: set)
    | some op => do
      let old ← valueOf look set x
      let u ← after set (apply op old v)
      return (u, (x, u) :: set)
  | .broken wanted, set => .error (.wanted wanted, set)
  | .cut a wanted, set => do
    let (_, set) ← value look a set
    .error (.wanted wanted, set)

/-- The value of a text, and the variables that it sets, the last one first. -/
def evaluate (look : Text → Text) (t : Text) : Evaluation (Int × Settings) :=
  value look (ofText t) []

end Sum

end AliasShell.Script
