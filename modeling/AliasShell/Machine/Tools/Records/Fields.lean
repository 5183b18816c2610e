/-
Cutting texts: an input into records, and a record into fields.

What separates is a blank, which stands for any run of blanks; another character, which stands for
itself; or a regular expression.  An empty separator cuts fields into characters, and an input where
lines are empty.
-/
import AliasShell.Machine.Regex.Matcher
import AliasShell.Machine.Tools.Records.Value

namespace AliasShell.Tools.Records

/-- What separates. -/
inductive Separator where
  | blanks
  | nothing
  | char (c : Char)
  | regex (m : Matcher)

namespace Separator

/-- The words between blanks. -/
def words (t : Text) : List Text := (t.cut Value.isBlank).filter fun w => !w.isEmpty

/-- The pieces between matches, none of which is empty; at most `n`.  `i` is where a piece begins,
and `bytes` are those of the text. -/
def between (m : Matcher) (bytes : Array UInt8) : Nat → Nat → Nat → Text → List Text
  | 0, _, _, t => [t]
  | n + 1, i, next, t =>
    match m.span? bytes next with
    | none => [t]
    | some (a, b) =>
      if a < b then t.take (a - i) :: between m bytes n b b (t.drop (b - i))
      else if bytes.size ≤ a then [t]
      else between m bytes n i (a + 1) t

/-- The fields of a text. -/
def fields (s : Separator) (t : Text) : List Text :=
  if t.isEmpty then []
  else
    match s with
    | .blanks => words t
    | .nothing => t.map fun c => [c]
    | .char c => t.cut (· == c)
    | .regex m => between m (Text.bytes t).toArray t.length 0 0 t

/-- A record up to an empty line, and what follows that. -/
def paragraph : Text → Text × Text
  | [] => ([], [])
  | '\n' :: '\n' :: cs => ([], cs.dropWhile (· == '\n'))
  | ['\n'] => ([], [])
  | c :: cs =>
    let (t, rest) := paragraph cs
    (c :: t, rest)

/-- The first record of a text, and what follows it; there is none at the end. -/
def record (s : Separator) (t : Text) : Option (Text × Text) :=
  match s with
  | .nothing =>
    match t.dropWhile (· == '\n') with
    | [] => none
    | body => some (paragraph body)
  | _ =>
    if t.isEmpty then none
    else
      match s with
      | .char c =>
        match t.cutFirst (· == c) with
        | some (found, rest) => some (found, rest)
        | none => some (t, [])
      | .regex m =>
        let bytes := (Text.bytes t).toArray
        let rec search : Nat → Nat → Option (Nat × Nat)
          | 0, _ => none
          | n + 1, i =>
            match m.span? bytes i with
            | none => none
            | some (a, b) => if a < b then some (a, b) else search n (a + 1)
        match search t.length 0 with
        | some (a, b) => some (t.take a, t.drop b)
        | none => some (t, [])
      | _ => some (t, [])

end Separator

end AliasShell.Tools.Records
