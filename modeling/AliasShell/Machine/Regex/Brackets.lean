/-
Brackets in regular expressions.

    brackets := '[' '^'? element+ ']'
    element  := end ('-' end)? | '[:' class ':]' | '[=' byte '=]'
    end      := byte | '[.' byte '.]'

A `]` that comes first stands for itself, and so does a `-` that comes first or last.
-/
import AliasShell.Machine.Regex.Basic
import AliasShell.Machine.Script.Pattern

namespace AliasShell.Regex

/-- A range of characters as one of bytes. -/
def byteRange (r : Char × Char) : UInt8 × UInt8 := (Text.byteOf r.1, Text.byteOf r.2)

/-- Something between brackets. -/
inductive Element where
  /-- one byte, which can be an end of a range -/
  | one (c : Char)
  /-- several, which cannot -/
  | several (ranges : List (UInt8 × UInt8))
  deriving Repr, DecidableEq

/-- The text up to a mark that is followed by a closing bracket, and what follows both. -/
def namedPart (mark : Char) : Text → Option (Text × Text)
  | [] => none
  | [_] => none
  | c :: d :: cs =>
    if c = mark ∧ d = ']' then some ([], cs)
    else (namedPart mark (d :: cs)).map fun (t, rest) => (c :: t, rest)

/-- What has a meaning between brackets. -/
structure Shields where
  /-- what a backslash and the character after it stand for -/
  meaning : Char → Option Element
  /-- classes are known by their names -/
  classes : Bool := true

/-- The first element of a text. -/
def element (shields : Shields) : Text → Except Fault (Element × Text)
  | [] => throw .brackets
  | '[' :: ':' :: cs =>
    match shields.classes, namedPart ':' cs with
    | false, _ => return (.one '[', ':' :: cs)
    | true, none => throw .brackets
    | true, some (name, rest) =>
      match Script.Pattern.classes.lookup name with
      | some rs => return (.several (rs.map byteRange), rest)
      | none => throw .className
  | '[' :: '=' :: cs =>
    match namedPart '=' cs with
    | some ([c], rest) => return (.several [byteRange (c, c)], rest)
    | some _ => throw .collation
    | none => throw .brackets
  | '[' :: '.' :: cs =>
    match namedPart '.' cs with
    | some ([c], rest) => return (.one c, rest)
    | some _ => throw .collation
    | none => throw .brackets
  | '\\' :: c :: cs =>
    match shields.meaning c with
    | some e => return (e, cs)
    | none => return (.one '\\', c :: cs)
  | c :: cs => return (.one c, cs)

/-- The elements up to the bracket that closes them; at most `n`. -/
def elements (shields : Shields) :
    Nat → Bool → Text → Except Fault (List (UInt8 × UInt8) × Text)
  | 0, _, _ => throw .brackets
  | _, _, [] => throw .brackets
  | n + 1, isFirst, t => do
    match isFirst, t with
    | false, ']' :: rest => return ([], rest)
    | false, '-' :: c :: rest =>
      if c = ']' then return ([byteRange ('-', '-')], rest)
      throw .rangeEnd
    | _, t =>
      let (e, rest) ← element shields t
      match e, rest with
      | .several rs, rest =>
        let (more, after) ← elements shields n false rest
        return (rs ++ more, after)
      | .one c, '-' :: ']' :: rest =>
        return ([byteRange (c, c), byteRange ('-', '-')], rest)
      | .one c, '-' :: rest =>
        let (e, rest) ← element shields rest
        match e with
        | .one d =>
          if d < c then throw .rangeEnd
          let (more, after) ← elements shields n false rest
          return (byteRange (c, d) :: more, after)
        | .several _ => throw .rangeEnd
      | .one c, rest =>
        let (more, after) ← elements shields n false rest
        return (byteRange (c, c) :: more, after)

/-- The set after a `[`, and what follows it. -/
def brackets (shields : Shields) (t : Text) : Except Fault (Regex × Text) := do
  match t with
  | '^' :: cs =>
    let (rs, rest) ← elements shields (cs.length + 1) true cs
    return (.set false rs, rest)
  | cs =>
    let (rs, rest) ← elements shields (cs.length + 1) true cs
    let written := cs.take (cs.length - rest.length - 1)
    if shields.classes ∧ written.head? = some ':' ∧ written.getLast? = some ':' ∧
        1 < written.length then
      throw .classForm
    return (.set true rs, rest)

end AliasShell.Regex
