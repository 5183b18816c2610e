/-
The tool that evaluates its arguments: numbers of any size, texts, and what holds between them.

    or      := and ('|' and)*
    and     := order ('&' order)*
    order   := sum (('<' | '<=' | '=' | '==' | '!=' | '>=' | '>') sum)*
    sum     := product (('+' | '-') product)*
    product := fit (('*' | '/' | '%') fit)*
    fit     := primary (':' primary)*
    primary := '(' or ')' | 'length' primary | ... | argument

What is not needed of an expression is read and not evaluated.
-/
import AliasShell.Machine.Regex.Matcher
import AliasShell.Machine.Tools.Basic

namespace AliasShell.Tools

namespace Expr

/-- Why arguments have no value. -/
inductive Fault where
  | missingAfter (t : Text)
  | unexpected (t : Text)
  | closing
  | unclosedAfter (t : Text)
  | unclosedBy (t : Text)
  | notInteger
  | division
  | expression (f : Regex.Fault)
  deriving Repr, DecidableEq

/-- The wording of a fault. -/
def Fault.message : Fault → Text
  | .missingAfter t => "syntax error: missing argument after " ++ Quoting.cited t
  | .unexpected t => "syntax error: unexpected argument " ++ Quoting.cited t
  | .closing => "syntax error: unexpected ')'"
  | .unclosedAfter t => "syntax error: expecting ')' after " ++ Quoting.cited t
  | .unclosedBy t => "syntax error: expecting ')' instead of " ++ Quoting.cited t
  | .notInteger => "non-integer argument"
  | .division => "division by zero"
  | .expression f => f.message

/-- What evaluating leads to: a value, the last argument that was read, and those after it. -/
abbrev Step := Except Fault (Text × Text × List Text)

/-- The number that a value is. -/
def integer? (t : Text) : Option Int := if t.head? = some '+' then none else Integer.ofText? t

/-- A value that counts for false. -/
def isNull (t : Text) : Bool :=
  let ds := if t.head? = some '-' then t.drop 1 else t
  t.isEmpty || (!ds.isEmpty && ds.all (· == '0'))

/-- The operators of a level. -/
inductive Level where
  | or
  | and
  | order
  | sum
  | product
  | fit
  deriving Repr, DecidableEq

/-- The level that binds more tightly. -/
def Level.inner? : Level → Option Level
  | .or => some .and
  | .and => some .order
  | .order => some .sum
  | .sum => some .product
  | .product => some .fit
  | .fit => none

/-- The operators of a level. -/
def Level.operators : Level → List Text
  | .or => [['|']]
  | .and => [['&']]
  | .order => ["<", "<=", "=", "==", "!=", ">=", ">"].map String.toList
  | .sum => [['+'], ['-']]
  | .product => [['*'], ['/'], ['%']]
  | .fit => [[':']]

/-- How an operator compares. -/
def compares (op : Text) (o : Ordering) : Bool :=
  if op = ['<'] then o == .lt
  else if op = "<=".toList then o != .gt
  else if op = "!=".toList then o != .eq
  else if op = ">=".toList then o != .lt
  else if op = ['>'] then o == .gt
  else o == .eq

/-- What of a text an expression fits, from its beginning on. -/
def fitting (t pattern : Text) : Except Fault Text :=
  match Regex.read .basic pattern with
  | .error f => .error (.expression f)
  | .ok r =>
    let b := (Text.bytes t).toArray
    let m := Matcher.ofRegex false false false r
    match m.front? b with
    | none => .ok (if m.groups = 0 then ['0'] else [])
    | some found =>
      if m.groups = 0 then .ok (Integer.digits found.finish)
      else
        match found.group? 1 with
        | some (x, y) => .ok (Bytes.numbered (b.extract x y).toList)
        | none => .ok []

/-- The value of an operator. -/
def apply (op a b : Text) : Except Fault Text :=
  if op = ['|'] then .ok (if !isNull a then a else if !isNull b then b else ['0'])
  else if op = ['&'] then .ok (if isNull a || isNull b then ['0'] else a)
  else if op = [':'] then fitting a b
  else if Level.order.operators.contains op then
    let o := match integer? a, integer? b with
      | some x, some y => compare x y
      | _, _ => if a = b then .eq else if a < b then .lt else .gt
    .ok (if compares op o then ['1'] else ['0'])
  else
    match integer? a, integer? b with
    | some x, some y =>
      if op = ['+'] then .ok (Integer.text (x + y))
      else if op = ['-'] then .ok (Integer.text (x - y))
      else if op = ['*'] then .ok (Integer.text (x * y))
      else if y = 0 then .error .division
      else if op = ['/'] then .ok (Integer.text (Int.tdiv x y))
      else .ok (Integer.text (Int.tmod x y))
    | _, _ => .error .notInteger

/-- The position from 1 on of the first byte of `t` that is in a set; 0 if there is none. -/
def indexIn (t set : Text) : Nat :=
  let b := Text.bytes t
  match b.findIdx? fun x => (Text.bytes set).contains x with
  | some i => i + 1
  | none => 0

/-- A piece of a text. -/
def piece (t first count : Text) : Text :=
  match integer? first, integer? count with
  | some i, some n =>
    if i ≤ 0 ∨ n ≤ 0 then [] else ((t.drop (i.toNat - 1)).take n.toNat)
  | _, _ => []

mutual

/-- A level of operators; `last` is the argument before these. -/
def level : Nat → Bool → Level → Text → List Text → Step
  | 0, _, _, last, _ => .error (.missingAfter last)
  | n + 1, needed, l, last, ts => do
    let (a, last, rest) ← match l.inner? with
      | some inner => level n needed inner last ts
      | none => primary n needed last ts
    more n needed l a last rest

/-- The operators of a level that follow `a`. -/
def more : Nat → Bool → Level → Text → Text → List Text → Step
  | 0, _, _, a, last, ts => .ok (a, last, ts)
  | n + 1, needed, l, a, last, ts =>
    match ts with
    | op :: rest =>
      if l.operators.contains op then do
        let rightNeeded := needed &&
          (if l = .or then isNull a else if l = .and then !isNull a else true)
        let (b, last, rest) ← match l.inner? with
          | some inner => level n rightNeeded inner op rest
          | none => primary n rightNeeded op rest
        let v ← if needed then apply op a b else pure a
        more n needed l v last rest
      else .ok (a, last, ts)
    | [] => .ok (a, last, [])

/-- `primary`. -/
def primary : Nat → Bool → Text → List Text → Step
  | 0, _, last, _ => .error (.missingAfter last)
  | n + 1, needed, last, ts =>
    match ts with
    | [] => .error (.missingAfter last)
    | t :: rest =>
      if t = ['('] then do
        let (v, last, rest) ← level n needed .or t rest
        match rest with
        | [')'] :: rest => return (v, [')'], rest)
        | u :: _ => throw (.unclosedBy u)
        | [] => throw (.unclosedAfter last)
      else if t = [')'] then .error .closing
      else if t = ['+'] then
        match rest with
        | u :: rest => .ok (u, u, rest)
        | [] => .error (.missingAfter t)
      else if t = "length".toList then do
        let (v, last, rest) ← primary n needed t rest
        return (Integer.digits v.length, last, rest)
      else if t = "match".toList then do
        let (a, last, rest) ← primary n needed t rest
        let (b, last, rest) ← primary n needed last rest
        let v ← if needed then fitting a b else pure a
        return (v, last, rest)
      else if t = "index".toList then do
        let (a, last, rest) ← primary n needed t rest
        let (b, last, rest) ← primary n needed last rest
        return (Integer.digits (indexIn a b), last, rest)
      else if t = "substr".toList then do
        let (a, last, rest) ← primary n needed t rest
        let (b, last, rest) ← primary n needed last rest
        let (c, last, rest) ← primary n needed last rest
        return (piece a b c, last, rest)
      else .ok (t, t, rest)

end

/-- The value of arguments. -/
def value (ts : List Text) : Except Fault Text := do
  let (v, _, rest) ← level (16 * ts.length + 16) true .or [] ts
  match rest with
  | [] => return v
  | t :: _ => throw (.unexpected t)

end Expr

/-- Evaluates the arguments. -/
def expr : Tool := fun p =>
  match (if p.args.head? = some ['-', '-'] then p.args.drop 1 else p.args) with
  | [] => misused p 2 "missing operand"
  | args =>
    match Expr.value args with
    | .ok v => p.leave (if Expr.isNull v then 1 else 0) [(.output, Text.bytes (v ++ ['\n']))]
    | .error e => p.refuse 2 e.message

end AliasShell.Tools
