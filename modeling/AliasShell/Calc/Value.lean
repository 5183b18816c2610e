/-
The values of the calculator: integers of 64 bits and binary64 numbers.  And why an expression has
no value.
-/
import AliasShell.Number.Integer
import AliasShell.Number.Positional

namespace AliasShell

/-! ### No value -/

/-- The causes, in the order in which the calculator comes upon them: characters, tokens, names,
numbers. -/
inductive CalcError where
  /-- there is no token in the expression -/
  | empty
  /-- no token begins with this character -/
  | unexpectedChar (c : Char)
  /-- the tokens end where another one is needed -/
  | unexpectedEnd
  /-- this token cannot stand where it does, or is no number -/
  | unexpectedToken (token : Text)
  /-- neither a constant nor a function has this name -/
  | unknownIdentifier (name : Text)
  /-- the function takes another number of arguments -/
  | arity (name : Text) (expected got : Nat)
  | divisionByZero
  /-- an integer has no 64-bit form -/
  | overflow
  /-- signs, powers and parentheses enclose each other more deeply than this -/
  | tooDeep (limit : Nat)
  deriving Repr, DecidableEq

/-- The wording of an error. -/
def CalcError.message : CalcError → Text
  | .empty => "empty expression"
  | .unexpectedChar c => "unexpected character '" ++ (c :: "'".toList)
  | .unexpectedEnd => "unexpected end of expression"
  | .unexpectedToken token => "unexpected token '" ++ token ++ "'"
  | .unknownIdentifier name => "unknown identifier '" ++ name ++ "'"
  | .arity name expected got =>
    name ++ " expects " ++ Integer.digits expected ++ " argument(s), got " ++ Integer.digits got
  | .divisionByZero => "division by zero"
  | .overflow => "integer overflow"
  | .tooDeep limit => "expression nested deeper than " ++ Integer.digits limit ++ " levels"

/-! ### Values -/

/-- An integer stays one until it meets a binary64 number. -/
inductive Value where
  | int (i : Int)
  | float (x : Float)

namespace Value

/-- The value as a binary64 number; an integer is rounded to the nearest one. -/
def toFloat : Value → Float
  | .int i => Float.ofInt i
  | .float x => x

/-- Zero of either kind, of either sign. -/
def isZero : Value → Bool
  | .int i => i == 0
  | .float x => x == 0.0

/-- The text of a value. -/
def text : Value → Text
  | .int i => Integer.text i
  | .float x => Float.text x

/-- The integer as a value if it has a 64-bit form. -/
def ofInt (i : Int) : Except CalcError Value :=
  if Integer.InRange i then .ok (.int i) else .error .overflow

theorem ofInt_eq_ok {i : Int} (h : Integer.InRange i) : ofInt i = .ok (.int i) := by
  simp [ofInt, h]

theorem ofInt_eq_error {i : Int} (h : ¬ Integer.InRange i) : ofInt i = .error .overflow := by
  simp [ofInt, h]

end Value

end AliasShell
