/-
Reading an expression and computing its value in one pass over the tokens.

    expr    := term (('+' | '-') term)*
    term    := unary (('*' | '/' | '%') unary)*
    unary   := ('+' | '-') unary | power
    power   := primary ('^' unary)?
    primary := number | '(' expr ')' | name | name '(' [expr (',' expr)*] ')'

A reader takes tokens from the front and answers with a value and the tokens it left.  Because the
value is computed while reading, the error reported is the first one met from left to right, be it a
stray token or a division by zero.

Every way around the grammar goes through `unary`, so `unary` recurses on the number of levels still
allowed, and the other rules are built on the reader of the level below.  A chain of operators or of
arguments takes a token for each of its steps, so no chain is longer than the expression: `bound`
is the number of all its tokens, the same for every chain.
-/
import AliasShell.Calc.Token

namespace AliasShell

/-- Takes tokens from the front: a value and the tokens left. -/
abbrev Reader := List Token → Except CalcError (Value × List Token)

namespace Reader

/-- The error of a reader that needs another token than the first one. -/
def unexpected : List Token → CalcError
  | [] => .unexpectedEnd
  | t :: _ => .unexpectedToken t.text

/-- Goes on from the value `v` while an operator `p` picks comes next, at most `n` times. -/
def chainRest (p : BinOp → Bool) (operand : Reader) : Nat → Value → Reader
  | n + 1, v, .op o :: ts =>
    if p o then do
      let (w, rest) ← operand ts
      let u ← o.apply v w
      chainRest p operand n u rest
    else .ok (v, .op o :: ts)
  | _, v, ts => .ok (v, ts)

/-- Operands with operators between them, grouped to the left. -/
def chain (bound : Nat) (p : BinOp → Bool) (operand : Reader) : Reader := fun ts => do
  let (v, rest) ← operand ts
  chainRest p operand bound v rest

/-- `term`, where `operand` reads `unary`. -/
def term (bound : Nat) (operand : Reader) : Reader := chain bound (fun o => !o.isSum) operand

/-- `expr`, where `operand` reads `unary`. -/
def expr (bound : Nat) (operand : Reader) : Reader :=
  chain bound BinOp.isSum (term bound operand)

/-- One argument or more, up to the closing parenthesis; at most `n`. -/
def arguments (item : Reader) :
    Nat → List Token → Except CalcError (List Value × List Token)
  | 0, ts => .error (unexpected ts)
  | n + 1, ts => do
    let (v, rest) ← item ts
    match rest with
    | .comma :: rest => do
      let (vs, rest) ← arguments item n rest
      return (v :: vs, rest)
    | .closeParen :: rest => return ([v], rest)
    | rest => .error (unexpected rest)

/-- `primary`, where `operand` reads `unary`. -/
def primary (bound : Nat) (operand : Reader) : Reader
  | .number v :: ts => .ok (v, ts)
  | .openParen :: ts => do
    let (v, rest) ← expr bound operand ts
    match rest with
    | .closeParen :: rest => return (v, rest)
    | rest => .error (unexpected rest)
  | .name n :: .openParen :: .closeParen :: ts => do
    let v ← Value.call n []
    return (v, ts)
  | .name n :: .openParen :: ts => do
    let (args, rest) ← arguments (expr bound operand) bound ts
    let v ← Value.call n args
    return (v, rest)
  | .name n :: ts => do
    let v ← Value.constant n
    return (v, ts)
  | ts => .error (unexpected ts)

/-- `power`, where `operand` reads `unary`; the exponent is read first and so `^` groups to the
right. -/
def power (bound : Nat) (operand : Reader) : Reader := fun ts => do
  let (base, rest) ← primary bound operand ts
  match rest with
  | .caret :: rest => do
    let (exponent, rest) ← operand rest
    let v ← Value.pow base exponent
    return (v, rest)
  | rest => return (base, rest)

/-- The body of `unary`, where `operand` reads `unary` itself. -/
def signed (bound : Nat) (operand : Reader) : Reader
  | .op .sub :: ts => do
    let (v, rest) ← operand ts
    let u ← v.neg
    return (u, rest)
  | .op .add :: ts => operand ts
  | ts => power bound operand ts

/-- How deep `unary` may nest. -/
def nestingLimit : Nat := 256

/-- `unary` with this many levels left. -/
def unary (bound : Nat) : Nat → Reader
  | 0 => fun _ => .error (.tooDeep nestingLimit)
  | levels + 1 => signed bound (unary bound levels)

end Reader

/-- The value of a text. -/
def evaluate (expression : Text) : Except CalcError Value := do
  let ts ← tokens expression
  if ts.isEmpty then .error .empty
  else
    let bound := ts.length
    let (v, rest) ← Reader.expr bound (Reader.unary bound Reader.nestingLimit) ts
    match rest with
    | [] => return v
    | t :: _ => .error (.unexpectedToken t.text)

/-- The text of the value of a text. -/
def evaluateText (expression : Text) : Except CalcError Text := do
  let v ← evaluate expression
  return v.text

end AliasShell
