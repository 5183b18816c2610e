/-
Reading edits.

A fault is found at a place, which is where the reading has come to: how much of the text is left
says where that is.
-/
import AliasShell.Machine.Tools.Editing.Basic

namespace AliasShell.Editing

/-- Reading: a fault with how much is left of the text, or what was read. -/
abbrev Reading := Except (Fault × Nat)

/-- How expressions are written, and what is left to be read. -/
structure Writing where
  extended : Bool

/-! ### Pieces -/

/-- A text without blanks in front. -/
def trimmed (t : Text) : Text := t.dropWhile fun c => c == ' ' || c == '\t'

/-- The digits in front of a text as a number, and what follows them. -/
def number (t : Text) : Nat × Text :=
  let ds := t.takeWhile Char.isDigit
  (Integer.ofDigits ds, t.drop ds.length)

/-- How many characters brackets take up to the one that closes them, behind the one that opens
them. -/
def bracketsLength (t : Text) : Option Nat :=
  match Regex.brackets ⟨fun _ => none, true⟩ t with
  | .ok (_, rest) => some (t.length - rest.length)
  | .error .className | .error .rangeEnd | .error .classForm | .error .collation =>
    (t.findIdx? (· == ']')).map (· + 1)
  | .error _ => none

/-- A text up to an unshielded mark, and what follows that; at most `n` characters.  A shielded mark
loses its backslash.  In an expression a mark between brackets is none, and a line end ends what is
no expression or is not shielded.  What is left at the end is given where there is no mark. -/
def upTo (isRegex : Bool) (mark : Char) : Nat → Text → Except Text (Text × Text)
  | 0, t => .error t
  | _, [] => .error []
  | n + 1, c :: cs =>
    let keep (front rest : Text) : Except Text (Text × Text) :=
      (upTo isRegex mark n rest).map fun (t, rest) => (front ++ t, rest)
    if c = mark then .ok ([], cs)
    else if c = '\n' then .error (c :: cs)
    else if c = '\\' then
      match cs with
      | [] => .error []
      | d :: rest =>
        if d = mark ∧ !(!isRegex ∧ d = '&') then keep [d] rest else keep [c, d] rest
    else if isRegex ∧ c = '[' then
      match bracketsLength cs with
      | some k => keep (c :: cs.take k) (cs.drop k)
      | none => .error []
    else keep [c] cs

/-- The expression that a text is; none if it is empty. -/
def expression (w : Writing) (t : Text) (folds lines : Bool) (left : Nat) :
    Reading (Option (Matcher)) :=
  if t.isEmpty then
    if folds || lines then throw (.modifiers, left) else return none
  else
    match Regex.read (.edit w.extended) t with
    | .ok r => return some (.ofRegex folds lines false r)
    | .error f => throw (.expression f, left)

/-! ### Addresses -/

/-- The letters behind the expression of an address. -/
def addressFlags : Nat → Text → Bool × Bool × Text
  | 0, t => (false, false, t)
  | n + 1, t =>
    match trimmed t with
    | 'I' :: rest =>
      let (_, lines, rest) := addressFlags n rest
      (true, lines, rest)
    | 'M' :: rest =>
      let (folds, _, rest) := addressFlags n rest
      (folds, true, rest)
    | rest => (false, false, rest)

/-- An address, if a text begins with one. -/
def address? (w : Writing) (t : Text) : Reading (Option Address × Text) :=
  let fitting (mark : Char) (cs : Text) : Reading (Option Address × Text) :=
    match upTo true mark cs.length.succ cs with
    | .error rest => throw (.unterminatedAddress, rest.length)
    | .ok (body, rest) => do
      let (folds, lines, rest) := addressFlags rest.length rest
      let m ← expression w body folds lines rest.length
      return (some (.fitting m), rest)
  match t with
  | '$' :: rest => return (some .last, rest)
  | '+' :: rest =>
    let (n, rest) := number rest
    return (some (.further n), rest)
  | '~' :: rest =>
    let (n, rest) := number rest
    return (some (.multiple n), rest)
  | '/' :: cs => fitting '/' cs
  | ['\\'] => throw (.unterminatedAddress, 0)
  | '\\' :: mark :: cs => fitting mark cs
  | t =>
    if !(t.head?).any Char.isDigit then return (none, t)
    else
      let (n, rest) := number t
      match trimmed rest with
      | '~' :: rest =>
        let (step, rest) := number (trimmed rest)
        return (some (.every n step), rest)
      | _ => return (some (.number n), rest)

/-- How much is left behind the next character. -/
def behindNext (t : Text) : Nat := t.length - 1

/-- The lines that a command is for. -/
def reach (w : Writing) (t : Text) : Reading (Reach × Text) := do
  let (first, rest) ← address? w t
  match first with
  | none => return (.all, rest)
  | some (.further _) | some (.multiple _) => throw (.furtherFirst, rest.length)
  | some a =>
    let rest := trimmed rest
    let isZero : Bool := match a with
      | .number 0 => true
      | _ => false
    match rest with
    | ',' :: more =>
      let more := trimmed more
      let (second, rest) ← address? w more
      match second with
      | none => throw (.comma, behindNext more)
      | some b =>
        let rest := trimmed rest
        let fits : Bool := match b with
          | .fitting _ => true
          | _ => false
        if isZero && !fits then throw (.zeroLine, behindNext rest)
        return (.between a b, rest)
    | rest =>
      if isZero then throw (.zeroLine, behindNext rest)
      return (.one a, rest)

/-! ### Texts -/

/-- The text that a command adds, up to the end of its line.  A backslash shields a line end, names
bytes that do not show, and is left out in front of others; at most `n` characters. -/
def addition : Nat → Text → Bytes × Text
  | 0, t => ([], t)
  | _, [] => ([], [])
  | n + 1, c :: cs =>
    if c = '\n' then ([], cs)
    else if c = '\\' then
      match cs with
      | [] => ([], [])
      | d :: rest =>
        let (b, rest) : Bytes × Text := match Regex.controlBytes.lookup d, Regex.numbered? cs with
          | some b, _ => ([b], rest)
          | none, some (b, rest) => ([b], rest)
          | none, none => ([Text.byteOf d], rest)
        let (more, rest) := addition n rest
        (b ++ more, rest)
    else
      let (more, rest) := addition n cs
      (Text.byteOf c :: more, rest)

/-- The text of a command that adds one, and what follows it. -/
def text (t : Text) : Reading (Bytes × Text) :=
  let body := trimmed t
  match body with
  | [] => throw (.missingText, 0)
  | '\\' :: rest =>
    if rest.isEmpty then return ([], [])
    else
      let inner := match rest with
        | '\n' :: inner => inner
        | inner => inner
      let (b, rest) := addition (inner.length + 1) inner
      return (b ++ [10], rest)
  | body =>
    let (b, rest) := addition (body.length + 1) body
    return (b ++ [10], rest)

/-- The name of a file, which is all that is left of the line. -/
def fileName (t : Text) : Reading (Text × Text) :=
  let body := trimmed t
  let name := body.takeWhile (· != '\n')
  let rest := (body.drop name.length).drop 1
  if name.isEmpty then throw (.missingName, rest.length) else return (name, rest)

/-- A label. -/
def label (t : Text) : Text × Text :=
  let body := trimmed t
  let name := body.takeWhile fun c => !" \t\n\r;\x7d".toList.contains c
  (name, body.drop name.length)

/-- What comes in the place of a match, as a text says it; at most `n` characters. -/
def fillers : Nat → Text → List Filler
  | 0, _ => []
  | _, [] => []
  | n + 1, '\\' :: c :: cs =>
    let cases : List (Char × Filler) :=
      [('U', .case .upper), ('L', .case .lower), ('E', .case .kept), ('u', .nextCase .upper),
        ('l', .nextCase .lower)]
    if c.isDigit then .group (c.toNat - '0'.toNat) :: fillers n cs
    else if let some f := cases.lookup c then f :: fillers n cs
    else if let some b := Regex.controlBytes.lookup c then .bytes [b] :: fillers n cs
    else if let some (b, rest) := Regex.numbered? (c :: cs) then .bytes [b] :: fillers n rest
    else .bytes [Text.byteOf c] :: fillers n cs
  | n + 1, '&' :: cs => .group 0 :: fillers n cs
  | n + 1, c :: cs => .bytes [Text.byteOf c] :: fillers n cs

/-- The characters of an exchange; at most `n`. -/
def exchanged : Nat → Text → Bytes
  | 0, _ => []
  | _, [] => []
  | n + 1, '\\' :: c :: cs =>
    if let some b := Regex.controlBytes.lookup c then b :: exchanged n cs
    else if let some (b, rest) := Regex.numbered? (c :: cs) then b :: exchanged n rest
    else Text.byteOf c :: exchanged n cs
  | n + 1, c :: cs => Text.byteOf c :: exchanged n cs

/-! ### Commands -/

/-- What the letters after a substitution say. -/
structure Flags where
  all : Bool := false
  prints : Bool := false
  folds : Bool := false
  lines : Bool := false
  nth : Option Nat := none
  file : Option Text := none

/-- The letters after a substitution; at most `n`. -/
def flags : Nat → Flags → Text → Reading (Flags × Text)
  | 0, f, t => return (f, t)
  | _, f, [] => return (f, [])
  | n + 1, f, c :: cs => do
    if c = 'g' then
      if f.all then throw (.twice 'g', cs.length)
      flags n { f with all := true } cs
    else if c = 'p' then
      if f.prints then throw (.twice 'p', cs.length)
      flags n { f with prints := true } cs
    else if c = 'i' ∨ c = 'I' then flags n { f with folds := true } cs
    else if c = 'm' ∨ c = 'M' then flags n { f with lines := true } cs
    else if c = ' ' ∨ c = '\t' then flags n f cs
    else if c = 'w' then
      let (name, rest) ← fileName cs
      return ({ f with file := some name }, '\n' :: rest)
    else if c.isDigit then
      let (k, rest) := number (c :: cs)
      if f.nth.isSome then throw (.twice '0', rest.length)
      if k = 0 then throw (.zeroNumber, rest.length)
      flags n { f with nth := some k } rest
    else if c = '\x7d' ∨ c = '#' ∨ c = ';' ∨ c = '\n' then return (f, c :: cs)
    else throw (.unknownOption, cs.length)

/-- The commands that are one letter. -/
def plainEdits : List (Char × Edit) :=
  [('p', .print), ('P', .printFirst), ('=', .number), ('F', .source), ('d', .delete),
    ('D', .deleteFirst), ('z', .empty), ('n', .next), ('N', .appendNext), ('h', .hold),
    ('H', .holdMore), ('g', .get), ('G', .getMore), ('x', .swap)]

/-- What a command does, from its letter on. -/
def edit (w : Writing) : Text → Reading (Edit × Text)
  | 's' :: cs => do
    let mark :: cs := cs | throw (.unterminated 's', 0)
    match upTo true mark cs.length.succ cs with
    | .error rest => throw (.unterminated 's', rest.length)
    | .ok (pattern, rest) =>
      match upTo false mark rest.length.succ rest with
      | .error rest => throw (.unterminated 's', rest.length)
      | .ok (fill, rest) =>
        let (f, rest) ← flags rest.length.succ {} rest
        let left := if f.file.isSome then rest.length - 1 else rest.length
        let matcher ← expression w pattern f.folds f.lines left
        let fill := fillers fill.length fill
        let most := fill.foldl (fun n x => match x with
          | .group k => max n k
          | _ => n) 0
        if let some m := matcher then
          if m.groups < most then throw (.group most, left)
        return (.substitute ⟨matcher, fill, f.all, f.nth.getD 1, f.prints, f.file⟩, rest)
  | 'y' :: cs => do
    let mark :: cs := cs | throw (.unterminated 'y', 0)
    match upTo false mark cs.length.succ cs with
    | .error rest => throw (.unterminated 'y', rest.length)
    | .ok (old, rest) =>
      match upTo false mark rest.length.succ rest with
      | .error rest => throw (.unterminated 'y', rest.length)
      | .ok (new, rest) =>
        let x := exchanged old.length old
        let y := exchanged new.length new
        if x.length = y.length then return (.exchange (x.zip y), rest)
        else throw (.lengths, rest.length)
  | c :: rest => do
    if let some e := plainEdits.lookup c then return (e, rest)
    match c with
    | 'q' | 'Q' =>
      let (n, rest) := number (trimmed rest)
      return (if c = 'q' then .quit n else .leave n, rest)
    | 'l' =>
      let rest := trimmed rest
      let (n, after) := number rest
      return (.spell (if after.length = rest.length then none else some n), after)
    | 'a' | 'i' | 'c' =>
      let (b, rest) ← text rest
      return (if c = 'a' then .append b else if c = 'i' then .insert b else .change b,
        '\n' :: rest)
    | 'r' | 'R' | 'w' | 'W' =>
      let (name, rest) ← fileName rest
      return (if c = 'r' then .appendFile name
        else if c = 'R' then .appendLine name
        else if c = 'w' then .write name
        else .writeFirst name, '\n' :: rest)
    | 'b' | 't' | 'T' =>
      let (name, rest) := label rest
      let condition : Condition :=
        if c = 'b' then .always else .replaced (c == 't')
      return (.jump condition name, trimmed rest)
    | 'v' =>
      let (name, rest) := label rest
      let isNew := match (Text.cut (· == '.') name).map number with
        | (major, _) :: (minor, _) :: _ => 4 < major || (major == 4 && 9 < minor)
        | (major, _) :: _ => 4 < major
        | [] => false
      if isNew then throw (.newer, rest.length) else return (.nothing, rest)
    | c => throw (.unknown c, rest.length)
  | [] => throw (.missingCommand, 0)

/-- The end of a command, and what follows it. -/
def commandEnd (t : Text) : Reading Text :=
  match trimmed t with
  | [] => return []
  | c :: cs =>
    if c = ';' ∨ c = '\n' then return cs
    else if c = '\x7d' ∨ c = '#' then return c :: cs
    else throw (.extra, cs.length)

/-- What was read of an edit so far. -/
structure Draft where
  commands : Array Command := #[]
  labels : List (Text × Nat) := []
  /-- The blocks that are open: the number of each one's command, and what was left there. -/
  opened : List (Nat × Nat) := []

/-- The draft with one more command. -/
def Draft.push (d : Draft) (c : Command) : Draft := { d with commands := d.commands.push c }

/-- The marks of inversion behind an address. -/
def inversion (t : Text) : Reading (Bool × Text) :=
  match trimmed t with
  | '!' :: rest =>
    match trimmed rest with
    | '!' :: rest => throw (.inverted, rest.length)
    | rest => return (true, rest)
  | rest => return (false, rest)

/-- Reads commands; at most `n`. -/
def commands (w : Writing) : Nat → Draft → Text → Reading Draft
  | 0, d, _ => return d
  | n + 1, d, t => do
    let t := t.dropWhile fun c => " \t\n;".toList.contains c
    if t.isEmpty then return d
    let (reach, rest) ← reach w t
    let (inverted, rest) ← inversion rest
    let isFree : Bool := match reach with
      | .all => true
      | _ => false
    match rest with
    | [] => throw (.missingCommand, 0)
    | '#' :: cs =>
      if !isFree then throw (.noAddress '#', cs.length)
      commands w n d (cs.dropWhile (· != '\n'))
    | '\x7b' :: cs =>
      commands w n
        { d.push ⟨reach, inverted, .block 0⟩ with
          opened := (d.commands.size, cs.length) :: d.opened } cs
    | '\x7d' :: cs =>
      match d.opened with
      | [] => throw (.unopened, cs.length)
      | (k, _) :: opened =>
        if !isFree then throw (.noAddress '\x7d', cs.length)
        let closed := match d.commands[k]? with
          | some c => d.commands.setIfInBounds k { c with edit := .block (d.commands.size + 1) }
          | none => d.commands
        let rest ← commandEnd cs
        commands w n
          { d with commands := closed.push ⟨.all, false, .nothing⟩, opened } rest
    | ':' :: cs =>
      if !isFree then throw (.noAddress ':', cs.length)
      let (name, rest) := label cs
      if name.isEmpty then throw (.missingLabel, rest.length)
      let rest := match trimmed rest with
        | ';' :: rest => rest
        | rest => rest
      commands w n
        { d.push ⟨.all, false, .nothing⟩ with labels := (name, d.commands.size) :: d.labels } rest
    | c :: cs =>
      if (c = 'q' ∨ c = 'Q') then
        if let .between .. := reach then throw (.oneAddress, cs.length)
      let (e, rest) ← edit w (c :: cs)
      let d := d.push ⟨reach, inverted, e⟩
      match e with
      | .jump .. => commands w n d rest
      | _ =>
        let rest ← commandEnd rest
        commands w n d rest

/-- The edit that a text is, or a fault with the place where it is, if it has one. -/
def read (extended : Bool) (t : Text) : Except (Fault × Nat × Bool) Script :=
  match commands ⟨extended⟩ (t.length + 1) {} t with
  | .error (f, left) => .error (f, t.length - left, true)
  | .ok d =>
    match d.opened with
    | (_, left) :: _ => .error (.unclosed, t.length - left, false)
    | [] => .ok ⟨d.commands, d.labels, t.startsWith "#n"⟩

/-- A label that leads nowhere. -/
def Script.lost? (s : Script) : Option Text :=
  s.commands.toList.findSome? fun c =>
    match c.edit with
    | .jump _ name => if name.isEmpty || (s.labels.lookup name).isSome then none else some name
    | _ => none

end AliasShell.Editing
