/-
The tokens of an expression.

White space only separates.  A number is a run of digits and points: with a point it is a binary64
number, and exactly one point with a digit on some side of it is needed; without one it is an
integer of 64 bits.  A name begins with a letter or `_` and goes on with letters, numerals and `_`.
-/
import AliasShell.Calc.Operation
import AliasShell.Text.Blank
import AliasShell.Text.Letter

namespace AliasShell

/-- A token. -/
inductive Token where
  | number (v : Value)
  | name (n : Text)
  | op (o : BinOp)
  | caret
  | openParen
  | closeParen
  | comma

namespace Token

/-- How a token is quoted in an error; a number by its value. -/
def text : Token → Text
  | .number v => v.text
  | .name n => n
  | .op o => [o.char]
  | .caret => ['^']
  | .openParen => ['(']
  | .closeParen => [')']
  | .comma => [',']

/-- The characters of a number. -/
def isNumberChar (c : Char) : Bool := isDigit c || c == '.'

/-- A character that a name begins with. -/
def startsName (c : Char) : Bool := isLetter c || c == '_'

/-- A character that a name goes on with. -/
def continuesName (c : Char) : Bool := isLetterOrNumeral c || c == '_'

/-- The tokens of one character. -/
def ofChar? : Char → Option Token
  | '+' => some (.op .add)
  | '-' => some (.op .sub)
  | '*' => some (.op .mul)
  | '/' => some (.op .div)
  | '%' => some (.op .rem)
  | '^' => some .caret
  | '(' => some .openParen
  | ')' => some .closeParen
  | ',' => some .comma
  | _ => none

/-- The whole number that a run of digits denotes.  One of more than nineteen digits behind its
leading zeros has no 64-bit form. -/
def readWhole (ds : Text) : Except CalcError Value :=
  let significant := ds.dropWhile (· == '0')
  if 19 < significant.length then .error .overflow
  else Value.ofInt (Integer.ofDigits significant)

/-- The places that decide which binary64 number is nearest.  No number half way between two
neighbours has more than 1075 places, so of those further on it only matters whether one is not
zero. -/
def decidingPlaces (places : Text) : Text :=
  places.take 1075 ++ if (places.drop 1075).all (· == '0') then [] else ['1']

/-- The binary64 number nearest to the decimal `whole.places`.  With more than 309 digits before the
point it is beyond them all. -/
def readDecimal (whole places : Text) : Float :=
  let significant := whole.dropWhile (· == '0')
  let deciding := decidingPlaces places
  if 309 < significant.length then 1.0 / 0.0
  else Float.ofScientific (Integer.ofDigits (significant ++ deciding)) true deciding.length

/-- The value of a run of digits and points. -/
def readNumber (literal : Text) : Except CalcError Value :=
  match literal.cutFirst (· == '.') with
  | none => readWhole literal
  | some (whole, places) =>
    if places.contains '.' || (whole.isEmpty && places.isEmpty) then
      .error (.unexpectedToken literal)
    else .ok (.float (readDecimal whole places))

end Token

theorem length_dropWhile_le (p : Char → Bool) (t : Text) : (t.dropWhile p).length ≤ t.length :=
  (List.dropWhile_suffix p).length_le

/-- The tokens of a text, or the first character or number that is none. -/
def tokens : Text → Except CalcError (List Token)
  | [] => .ok []
  | c :: cs =>
    if isBlank c then tokens cs
    else if Token.isNumberChar c then do
      let v ← Token.readNumber (c :: cs.takeWhile Token.isNumberChar)
      let rest ← tokens (cs.dropWhile Token.isNumberChar)
      return .number v :: rest
    else if Token.startsName c then do
      let rest ← tokens (cs.dropWhile Token.continuesName)
      return .name (c :: cs.takeWhile Token.continuesName) :: rest
    else
      match Token.ofChar? c with
      | some token => do
        let rest ← tokens cs
        return token :: rest
      | none => .error (.unexpectedChar c)
termination_by t => t.length
decreasing_by
  all_goals
    have := length_dropWhile_le Token.isNumberChar cs
    have := length_dropWhile_le Token.continuesName cs
    simp only [List.length_cons]
    omega

end AliasShell
