/-
The words that programs over records are written in.

A `/` begins a regular expression where no operand has just ended.  A line end counts as a word, but
not where something has to follow or where one more would change nothing.
-/
import AliasShell.Machine.Tools.Records.Value

namespace AliasShell.Tools.Records

/-- A word of a program. -/
inductive Token where
  | number (x : Float) (shown : Text)
  | text (t : Text)
  | regex (t : Text)
  /-- a name, and whether a parenthesis follows at once -/
  | name (t : Text) (called : Bool)
  | builtin (t : Text)
  | keyword (t : Text)
  | sign (t : Text)
  | lineEnd
  | finish

/-- The word is this sign. -/
def Token.isSign (t : Text) : Token → Bool
  | .sign u => u == t
  | _ => false

/-- A word with the number of its line. -/
structure Lexeme where
  token : Token
  line : Nat

namespace Lexeme

/-- The words that are no names. -/
def keywords : List String :=
  ["BEGIN", "END", "break", "continue", "delete", "do", "else", "exit", "for", "function",
    "getline",
    "if", "in", "next", "nextfile", "print", "printf", "return", "while"]

/-- The names of the functions that every program has. -/
def builtins : List String :=
  ["length", "index", "substr", "split", "sub", "gsub", "match", "sprintf", "sin", "cos", "atan2",
    "exp", "log", "sqrt", "int", "rand", "srand", "tolower", "toupper", "system", "close", "fflush",
    "systime", "strftime", "mktime"]

/-- The signs, longer ones before their beginnings. -/
def signs : List String :=
  [">>", "<=", ">=", "==", "!=", "!~", "&&", "||", "++", "--", "+=", "-=", "*=", "/=", "%=", "^=",
    "\x7b", "\x7d", "(", ")", "[", "]", ";", ",", "+", "-", "*", "/", "%", "^", "!", "<", ">", "=",
    "~", "?",
    ":", "|", "$"]

/-- Why a text is no program. -/
inductive Fault where
  | runaway (isRegex : Bool) (t : Text)
  | strange (c : Char)
  | decimal (t : Text)
  deriving Repr, DecidableEq

/-- A regular expression up to the `/` that closes it, and what follows.  Between brackets a `/`
stands for itself. -/
def regexBody : Bool → Text → Option (Text × Text)
  | _, [] => none
  | _, '\n' :: _ => none
  | inside, '\\' :: '/' :: cs => (regexBody inside cs).map fun (t, rest) => ('/' :: t, rest)
  | inside, '\\' :: c :: cs => (regexBody inside cs).map fun (t, rest) => ('\\' :: c :: t, rest)
  | false, '/' :: cs => some ([], cs)
  | false, '[' :: '^' :: ']' :: cs =>
    (regexBody true cs).map fun (t, rest) => ('[' :: '^' :: ']' :: t, rest)
  | false, '[' :: ']' :: cs => (regexBody true cs).map fun (t, rest) => ('[' :: ']' :: t, rest)
  | false, '[' :: cs => (regexBody true cs).map fun (t, rest) => ('[' :: t, rest)
  | true, ']' :: cs => (regexBody false cs).map fun (t, rest) => (']' :: t, rest)
  | inside, c :: cs => (regexBody inside cs).map fun (t, rest) => (c :: t, rest)

/-- A text up to the quote that closes it as it is written, what follows, and how many lines it took
more than one. -/
def quotedBody : Text → Option (Text × Text × Nat)
  | [] => none
  | '\n' :: _ => none
  | '"' :: cs => some ([], cs, 0)
  | '\\' :: '\n' :: cs => (quotedBody cs).map fun (t, rest, n) => (t, rest, n + 1)
  | '\\' :: c :: cs => (quotedBody cs).map fun (t, rest, n) => ('\\' :: c :: t, rest, n)
  | c :: cs => (quotedBody cs).map fun (t, rest, n) => (c :: t, rest, n)

/-- The letters behind a backslash that stand for something else. -/
def escapes : List (Char × Char) :=
  [('"', '"'), ('\\', '\\'), ('a', '\x07'), ('b', '\x08'), ('f', '\x0c'), ('n', '\n'),
    ('r', '\x0d'),
    ('t', '\t'), ('v', '\x0b')]

/-- The text that is written with backslashes; at most `n` characters.  A backslash that means
nothing stays. -/
def unescaped : Nat → Text → Text
  | 0, _ => []
  | _, [] => []
  | n + 1, '\\' :: c :: cs =>
    match escapes.lookup c with
    | some x => x :: unescaped n cs
    | none =>
      let octal := ((c :: cs).take 3).takeWhile fun c => '0' ≤ c && c ≤ '7'
      let hex := (cs.take 2).takeWhile EscapeStyle.isHex
      if !octal.isEmpty then
        Char.ofNat ((EscapeStyle.byteOf 8 octal).toNat) :: unescaped n ((c :: cs).drop octal.length)
      else if c = 'x' ∧ !hex.isEmpty then
        Char.ofNat ((EscapeStyle.byteOf 16 hex).toNat) :: unescaped n (cs.drop hex.length)
      else '\\' :: c :: unescaped n cs
  | n + 1, c :: cs => c :: unescaped n cs

/-- A text without its backslashes. -/
def unescape (t : Text) : Text := unescaped t.length t

/-- An operand has ended with the word, so that a `/` behind it divides. -/
def endsOperand : Token → Bool
  | .number .. => true
  | .text _ => true
  | .regex _ => true
  | .name .. => true
  | .builtin t => t == "length".toList
  | .keyword t => t == "getline".toList
  | .sign t => [")", "]", "++", "--"].any fun s => s.toList == t
  | _ => false

/-- A line end behind the word does not count. -/
def goesOn : Token → Bool
  | .sign t => ["\x7b", ",", "&&", "||", ";", "\x7d"].any fun s => s.toList == t
  | .lineEnd => true
  | _ => false

/-- What a number is written with at the beginning of a text. -/
def numberLength (t : Text) : Nat :=
  let whole := t.takeWhile Char.isDigit
  let rest := t.drop whole.length
  let places := match rest with
    | '.' :: more => 1 + (more.takeWhile Char.isDigit).length
    | _ => 0
  let rest := rest.drop places
  let (_, behind) := Quantity.exponent "eE".toList rest
  whole.length + places + (rest.length - behind.length)

/-- A character that a name begins with. -/
def beginsName (c : Char) : Bool := c == '_' || (c.isAlpha && c.toNat < 128)

/-- The word that a text begins with, what follows, and how many lines it took more than one. -/
def word (last : Token) (t : Text) : Except Fault (Token × Text × Nat) :=
  match t with
  | [] => .ok (.finish, [], 0)
  | '"' :: cs =>
    match quotedBody cs with
    | some (body, rest, n) => .ok (.text (unescape body), rest, n)
    | none => .error (.runaway false ((cs.takeWhile (· != '\n')).take 10))
  | c :: cs =>
    if beginsName c then
      let name := t.takeWhile fun c => beginsName c || c.isDigit
      let rest := t.drop name.length
      if keywords.any fun k => k.toList == name then .ok (.keyword name, rest, 0)
      else if builtins.any fun k => k.toList == name then .ok (.builtin name, rest, 0)
      else .ok (.name name (rest.head? == some '('), rest, 0)
    else if c.isDigit || (c == '.' && (cs.head?).any Char.isDigit) then
      let written := t.take (numberLength t)
      .ok (.number (Float.ofText written) written, t.drop written.length, 0)
    else if c = '/' ∧ !endsOperand last then
      match regexBody false cs with
      | some (body, rest) => .ok (.regex body, rest, 0)
      | none => .error (.runaway true ((cs.takeWhile (· != '\n')).take 10))
    else
      match signs.find? fun s => s.toList.isPrefixOf t with
      | some s => .ok (.sign s.toList, t.drop s.length, 0)
      | none => .error (.strange c)

/-- The text without blanks, remarks and line ends that are shielded, and how many lines that took.
-/
def skipped : Nat → Text → Text × Nat
  | 0, t => (t, 0)
  | n + 1, t =>
    match t with
    | '\\' :: '\n' :: cs =>
      let (rest, k) := skipped n cs
      (rest, k + 1)
    | '#' :: cs => skipped n (cs.dropWhile (· != '\n'))
    | c :: cs => if c != '\n' && Value.isBlank c then skipped n cs else (t, 0)
    | [] => ([], 0)

/-- The words of a text; at most `n`.  `last` is the one in front, `line` the number of the line. -/
def readFrom : Nat → Token → Nat → Text → Except (Fault × Nat) (List Lexeme)
  | 0, _, line, _ => .ok [⟨.finish, line⟩]
  | n + 1, last, line, t =>
    let (t, more) := skipped t.length t
    let line := line + more
    match t with
    | '\n' :: cs =>
      if goesOn last then readFrom n last (line + 1) cs
      else (readFrom n .lineEnd (line + 1) cs).map (⟨.lineEnd, line⟩ :: ·)
    | t => do
      let (token, rest, lines) ← (word last t).mapError fun e => (e, line)
      match token with
      | .finish => return [⟨.finish, line⟩]
      | token => return ⟨token, line⟩ :: (← readFrom n token (line + lines) rest)

/-- The words of a program. -/
def read (t : Text) : Except (Fault × Nat) (List Lexeme) :=
  readFrom (t.length + 1) .lineEnd 1 (t ++ ['\n'])

end Lexeme

end AliasShell.Tools.Records
