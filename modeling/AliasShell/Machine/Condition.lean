/-
Conditions: the arguments of `test`, and when they hold.

    any     := all ('-o' all)*
    all     := not ('-a' not)*
    not     := '!' not | primary
    primary := '(' any ')' | unary operand | operand binary operand | operand

What an argument is depends on those after it: an operator that nothing stands around is an operand.
With three arguments or four, the shape of the whole is looked at first.
-/
import AliasShell.Machine.Files.Change
import AliasShell.Machine.Format

namespace AliasShell

/-- Why a condition is none. -/
inductive ConditionFault where
  | notOperator (t : Text)
  | notUnary (t : Text)
  | leftOver (t : Text)
  | notNumber (t : Text)
  | missing (t : Text)
  | unclosed
  deriving Repr, DecidableEq

namespace Condition

/-- What an argument can be. -/
inductive Term where
  | finish
  | unary
  | binary
  | or
  | and
  | not
  | opening
  | closing
  | operand
  deriving Repr, DecidableEq

/-- The operators before one operand. -/
def unaryOps : List Text :=
  ["-r", "-w", "-x", "-e", "-f", "-d", "-c", "-b", "-p", "-u", "-g", "-k", "-s", "-t", "-z", "-n",
    "-h", "-O", "-G", "-L", "-S"].map String.toList

/-- The operators between two operands. -/
def binaryOps (f : FormatFamily) : List Text :=
  (["=", "!=", "-eq", "-ne", "-ge", "-gt", "-le", "-lt", "-nt", "-ot", "-ef"] ++
    match f with
    | .script => ["<", ">"]
    | .tool => ["=="]).map String.toList

/-- What an argument can be on its own. -/
def term (f : FormatFamily) (t : Text) : Term :=
  if unaryOps.contains t then .unary
  else if (binaryOps f).contains t then .binary
  else if t = "-o".toList then .or
  else if t = "-a".toList then .and
  else if t = ['!'] then .not
  else if t = ['('] then .opening
  else if t = [')'] then .closing
  else .operand

/-- What the first argument is before the others. -/
def first (f : FormatFamily) : List Text → Term
  | [] => .finish
  | t :: rest =>
    match term f t, rest with
    | .unary, [] => .operand
    | .unary, [_] => .unary
    | .unary, next :: _ => if term f next = .binary then .operand else .unary
    | .opening, [] => .operand
    | k, _ => k

/-- The number that an operand is.  A script's own has 64 bits. -/
def number (f : FormatFamily) (t : Text) : Except ConditionFault Int :=
  let body : Text := t.dropWhile Script.Sum.isSpace
  let body : Text := (body.reverse.dropWhile Script.Sum.isSpace).reverse
  match Integer.ofText? body with
  | some v =>
    if f = .script ∧ (v < Integer.least ∨ Integer.greatest < v) then .error (.notNumber t)
    else .ok v
  | none => .error (.notNumber t)

/-- The truth of a condition on one operand that is text or a path. -/
def holdsOfText (fs : Files) (op operand : Text) : Bool :=
  let node := match fs.locateWhole operand with
    | .ok loc => fs.node? loc
    | .error _ => none
  match op with
  | ['-', 'n'] => !operand.isEmpty
  | ['-', 'z'] => operand.isEmpty
  | ['-', 'd'] => node.any Node.isDir
  | ['-', 'h'] | ['-', 'L'] =>
    match fs.namedNode operand with
    | .ok (_, .link _ _) => true
    | _ => false
  | ['-', 'e'] | ['-', 'r'] | ['-', 'w'] | ['-', 'O'] | ['-', 'G'] => node.isSome
  | _ =>
    match op, node with
    | ['-', 'f'], some (.file _ _) => true
    | ['-', 's'], some (.file data _) => !data.isEmpty
    | ['-', 's'], some (.dir _) => true
    | ['-', 'x'], some (.file _ t) => t.runs
    | ['-', 'x'], some (.dir _) => true
    | ['-', 'u'], some node => node.mode / 2048 % 2 == 1
    | ['-', 'g'], some node => node.mode / 1024 % 2 == 1
    | ['-', 'k'], some node => node.mode / 512 % 2 == 1
    | ['-', 'c'], some (.device _) => true
    | _, _ => false

/-- The truth of a condition on one operand.  No channel leads to a terminal. -/
def holdsOf (f : FormatFamily) (fs : Files) (op operand : Text) : Except ConditionFault Bool :=
  if op = ['-', 't'] then (number f operand).map fun _ => false
  else .ok (holdsOfText fs op operand)

/-- When a path was last changed. -/
def changed (fs : Files) (p : Text) : Option Int :=
  match fs.locateWhole p with
  | .ok loc => (fs.node? loc).map Node.modified
  | .error _ => none

/-- The first path was changed later than the second; to a tool, also if only the first is there. -/
def newer (f : FormatFamily) (fs : Files) (a b : Text) : Bool :=
  match changed fs a, changed fs b with
  | some x, some y => decide (y < x)
  | some _, none => f == .tool
  | none, _ => false

/-- The truth of a condition between two operands. -/
def holdsBetween (f : FormatFamily) (fs : Files) (a op b : Text) : Except ConditionFault Bool :=
  let compare (g : Int → Int → Bool) : Except ConditionFault Bool := do
    let x ← number f a
    let y ← number f b
    return g x y
  if op = ['='] ∨ op = ['=', '='] then .ok (a == b)
  else if op = ['!', '='] then .ok (a != b)
  else if op = ['<'] then .ok (decide (a < b))
  else if op = ['>'] then .ok (decide (b < a))
  else if op = "-eq".toList then compare fun x y => x == y
  else if op = "-ne".toList then compare fun x y => x != y
  else if op = "-lt".toList then compare fun x y => decide (x < y)
  else if op = "-le".toList then compare fun x y => decide (x ≤ y)
  else if op = "-gt".toList then compare fun x y => decide (y < x)
  else if op = "-ge".toList then compare fun x y => decide (y ≤ x)
  else if op = "-nt".toList then .ok (newer f fs a b)
  else if op = "-ot".toList then .ok (newer f fs b a)
  else
    match fs.locateWhole a, fs.locateWhole b with
    | .ok x, .ok y => .ok (x == y)
    | _, _ => .ok false

/-- What follows an operator; for a tool there has to be something. -/
def behind (f : FormatFamily) : List Text → Except ConditionFault (List Text)
  | [op] => if f = .tool then .error (.missing op) else .ok []
  | ts => .ok ts.tail

mutual

/-- `any`. -/
def any (f : FormatFamily) (fs : Files) :
    Nat → List Text → Except ConditionFault (Bool × List Text)
  | 0, _ => .error .unclosed
  | n + 1, ts => do
    let (a, rest) ← all f fs n ts
    if first f rest = .or then
      let rest ← behind f rest
      let (b, rest) ← any f fs n rest
      return (a || b, rest)
    else return (a, rest)

/-- `all`. -/
def all (f : FormatFamily) (fs : Files) :
    Nat → List Text → Except ConditionFault (Bool × List Text)
  | 0, _ => .error .unclosed
  | n + 1, ts => do
    let (a, rest) ← negation f fs n ts
    if first f rest = .and then
      let rest ← behind f rest
      let (b, rest) ← all f fs n rest
      return (a && b, rest)
    else return (a, rest)

/-- `not`. -/
def negation (f : FormatFamily) (fs : Files) :
    Nat → List Text → Except ConditionFault (Bool × List Text)
  | 0, _ => .error .unclosed
  | n + 1, ts =>
    if first f ts = .not then do
      let rest ← behind f ts
      let (a, rest) ← negation f fs n rest
      return (!a, rest)
    else primary f fs n ts

/-- `primary`. -/
def primary (f : FormatFamily) (fs : Files) :
    Nat → List Text → Except ConditionFault (Bool × List Text)
  | 0, _ => .error .unclosed
  | n + 1, ts =>
    match first f ts, ts with
    | .finish, _ => .ok (false, [])
    | .opening, _ :: rest =>
      if first f rest = .closing then .ok (false, rest.tail)
      else do
        let (a, rest) ← any f fs n rest
        if first f rest = .closing then return (a, rest.tail) else throw .unclosed
    | .unary, op :: operand :: rest => do
      let truth ← holdsOf f fs op operand
      return (truth, rest)
    | _, a :: op :: b :: rest =>
      if term f op = .binary then do
        let truth ← holdsBetween f fs a op b
        return (truth, rest)
      else .ok (!a.isEmpty, op :: b :: rest)
    | _, [a, op] => if term f op = .binary then .error (.missing op) else .ok (!a.isEmpty, [op])
    | _, [a] => .ok (!a.isEmpty, [])
    | _, [] => .ok (false, [])

end

/-- The fault of arguments of which some are left over. -/
def leftOver (f : FormatFamily) (ts : List Text) (next : Text) (rest : List Text) :
    ConditionFault :=
  match f, ts with
  | .script, _ => .notOperator (ts.getD (ts.length - rest.length - 2) next)
  | .tool, [_, _] => .missing next
  | .tool, [_, middle, _] => .notOperator middle
  | .tool, _ => .leftOver next

/-- The truth of a condition that is read as it stands. -/
def plain (f : FormatFamily) (fs : Files) (ts : List Text) : Except ConditionFault Bool := do
  let (truth, rest) ← any f fs (4 * ts.length + 4) ts
  match rest with
  | [] => return truth
  | t :: rest => throw (leftOver f ts t rest)

/-- The truth of a condition. -/
def holds (f : FormatFamily) (fs : Files) (ts : List Text) : Except ConditionFault Bool :=
  match ts with
  | [a, op, b] =>
    if term f op = .binary then holdsBetween f fs a op b
    else if a = ['('] ∧ b = [')'] then plain f fs [op]
    else if a = ['!'] then (plain f fs [op, b]).map Bool.not
    else plain f fs ts
  | [a, b] =>
    let isOption : Bool := match a with
      | ['-', _] => true
      | _ => false
    if f = .tool ∧ isOption = true ∧ term f a = .operand then .error (.notUnary a)
    else plain f fs [a, b]
  | [a, b, c, d] =>
    if a = ['('] ∧ d = [')'] then plain f fs [b, c]
    else if a = ['!'] then
      (if term f c = .binary then holdsBetween f fs b c d else plain f fs [b, c, d]).map Bool.not
    else plain f fs ts
  | _ => plain f fs ts

/-- The wording of a fault. -/
def message : FormatFamily → ConditionFault → Text
  | .script, .notOperator t | .script, .leftOver t | .script, .notUnary t =>
    if t.isEmpty then "unexpected operator" else t ++ ": unexpected operator"
  | .script, .notNumber t => "Illegal number: " ++ t
  | .script, .missing t => t ++ ": argument expected"
  | .script, .unclosed => "closing paren expected"
  | .tool, .notOperator t => '\'' :: t ++ "': binary operator expected"
  | .tool, .notUnary t => '\'' :: t ++ "': unary operator expected"
  | .tool, .leftOver t => "extra argument '" ++ t ++ ['\'']
  | .tool, .notNumber t => "invalid integer '" ++ t ++ ['\'']
  | .tool, .missing t => "missing argument after '" ++ t ++ ['\'']
  | .tool, .unclosed => "')' expected"

/-- The code for the truth of a condition. -/
def code (truth : Bool) : Nat := if truth then 0 else 1

end Condition

end AliasShell
