/-
Operators, functions and constants.

On two integers an operation is done exactly and its result is checked; as soon as one operand is a
binary64 number, both are.  A remainder is refused where its quotient has no 64-bit form, and a
power with a negative exponent is a binary64 number.
-/
import AliasShell.Calc.Value
import AliasShell.Number.Binary

namespace AliasShell

/-- The operators that chain to the left. -/
inductive BinOp where
  | add | sub | mul | div | rem
  deriving Repr, DecidableEq

namespace BinOp

/-- The operator's character. -/
def char : BinOp → Char
  | .add => '+' | .sub => '-' | .mul => '*' | .div => '/' | .rem => '%'

/-- `+` and `-`. -/
def isSum : BinOp → Bool
  | .add | .sub => true
  | _ => false

/-- `/` and `%`, which need a divisor that is not zero. -/
def divides : BinOp → Bool
  | .div | .rem => true
  | _ => false

/-- The operation on integers; the divisor is not zero. -/
def onInts : BinOp → Int → Int → Except CalcError Value
  | .add, a, b => Value.ofInt (a + b)
  | .sub, a, b => Value.ofInt (a - b)
  | .mul, a, b => Value.ofInt (a * b)
  | .div, a, b => Value.ofInt (a.tdiv b)
  | .rem, a, b => do
    let _ ← Value.ofInt (a.tdiv b)
    Value.ofInt (a.tmod b)

/-- The operation on binary64 numbers. -/
def onFloats : BinOp → Float → Float → Float
  | .add, a, b => a + b
  | .sub, a, b => a - b
  | .mul, a, b => a * b
  | .div, a, b => a / b
  | .rem, a, b => Float.remainder a b

/-- The operation on values. -/
def apply (op : BinOp) (a b : Value) : Except CalcError Value :=
  if op.divides && b.isZero then .error .divisionByZero
  else
    match a, b with
    | .int a, .int b => op.onInts a b
    | a, b => .ok (.float (op.onFloats a.toFloat b.toFloat))

end BinOp

namespace Value

/-- The value with the other sign. -/
def neg : Value → Except CalcError Value
  | .int i => ofInt (-i)
  | .float x => .ok (.float (-x))

/-- The greatest exponent of an integer power. -/
def greatestExponent : Nat := 4294967295

/-- `b ^ e` for integers.  From the exponent 64 on, only 0, 1 and -1 have powers of 64 bits, and
those depend on no more than whether the exponent is odd. -/
def powInt (b : Int) (e : Nat) : Except CalcError Value :=
  if greatestExponent < e then .error .overflow
  else if e < 64 then ofInt (b.pow e)
  else if b.natAbs ≤ 1 then ofInt (b.pow (2 + e % 2))
  else .error .overflow

/-- `base ^ exponent`. -/
def pow (base exponent : Value) : Except CalcError Value :=
  match base, exponent with
  | .int b, .int e =>
    if 0 ≤ e then powInt b e.toNat
    else .ok (.float (Float.pow (Float.ofInt b) (Float.ofInt e)))
  | b, e => .ok (.float (Float.pow b.toFloat e.toFloat))

/-- A rounding function leaves integers as they are. -/
def rounded (f : Float → Float) : Value → Value
  | .int i => .int i
  | .float x => .float (f x)

/-- The first value if `first` says so, else the second; a binary64 number unless both are
integers. -/
def choose (first : Bool) : Value → Value → Value
  | .int a, .int b => .int (if first then a else b)
  | a, b => .float (if first then a.toFloat else b.toFloat)

end Value

/-! ### Functions and constants -/

/-- The functions. -/
inductive Function where
  | abs | sqrt | floor | ceil | round | min | max | pow
  deriving Repr, DecidableEq

namespace Function

/-- Every function with its name. -/
def names : List (Text × Function) :=
  [("abs", .abs), ("sqrt", .sqrt), ("floor", .floor), ("ceil", .ceil), ("round", .round),
    ("min", .min), ("max", .max), ("pow", .pow)]

/-- The function of this name; upper and lower case are one. -/
def ofName? (name : Text) : Option Function := names.lookup name.toLower

/-- The number of arguments. -/
def arity : Function → Nat
  | .min | .max | .pow => 2
  | _ => 1

/-- The function's value; `name` is how it was spelled. -/
def apply (name : Text) : Function → List Value → Except CalcError Value
  | .abs, [.int i] => Value.ofInt i.natAbs
  | .abs, [.float x] => .ok (.float x.abs)
  | .sqrt, [v] => .ok (.float v.toFloat.sqrt)
  | .floor, [v] => .ok (v.rounded Float.floor)
  | .ceil, [v] => .ok (v.rounded Float.ceil)
  | .round, [v] => .ok (v.rounded Float.round)
  | .min, [a, b] => .ok (Value.choose (a.toFloat ≤ b.toFloat) a b)
  | .max, [a, b] => .ok (Value.choose (a.toFloat ≥ b.toFloat) a b)
  | .pow, [a, b] => Value.pow a b
  | f, args => .error (.arity name f.arity args.length)

end Function

/-- The value of a call.  The name is looked up before the arguments are counted. -/
def Value.call (name : Text) (args : List Value) : Except CalcError Value :=
  match Function.ofName? name with
  | some f => f.apply name args
  | none => .error (.unknownIdentifier name)

/-- The constants with their names. -/
def Value.constants : List (Text × Float) :=
  [("pi", 3.141592653589793), ("e", 2.718281828459045)]

/-- The value of a name that stands alone; upper and lower case are one. -/
def Value.constant (name : Text) : Except CalcError Value :=
  match Value.constants.lookup name.toLower with
  | some x => .ok (.float x)
  | none => .error (.unknownIdentifier name)

end AliasShell
