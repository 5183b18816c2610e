/-
Reading regular expressions, of which there are several ways of writing.

An expression is cut into tokens first, which is where the ways of writing differ, and then read by

    either := seq ('|' seq)*
    seq    := item*
    item   := atom count*
    atom   := byte | set | anchor | '(' either ')' | '\n'
    count  := '*' | '+' | '?' | '{m,n}'
-/
import AliasShell.Machine.Regex.Brackets
import AliasShell.Number.Integer

namespace AliasShell.Regex

/-! ### Ways of writing -/

/-- A way of writing expressions. -/
structure Dialect where
  /-- parentheses, bars and braces have their meaning without a backslash -/
  extended : Bool
  /-- a backslash and a letter name a byte that does not show -/
  controls : Bool := false
  /-- a count with nothing to count is a fault; otherwise it is left out -/
  strict : Bool := false
  /-- a closing parenthesis that closes nothing stands for itself, and so do braces with no count -/
  loose : Bool := false
  /-- groups of several kinds, lazy counts, and sets that a backslash and a letter name -/
  rich : Bool := false
  /-- a backslash shields what stands between brackets -/
  shields : Bool := false
  /-- the only counts are `*`, `+` and `?`, and no class of characters has a name -/
  sparse : Bool := false
  /-- a backslash and a character name a byte, and nothing else -/
  bare : Bool := false
  deriving Repr, DecidableEq

namespace Dialect

/-- Expressions that texts are held against. -/
def basic : Dialect := { extended := false, strict := true }

/-- Expressions that lines are searched for. -/
def search (extended : Bool) : Dialect := { extended, loose := extended }

/-- Expressions that lines are searched for, in the richest way of writing. -/
def searchRich : Dialect :=
  { extended := true, rich := true, controls := true, strict := true, shields := true
    loose := true }

/-- Expressions of edits. -/
def edit (extended : Bool) : Dialect := { extended, controls := true, strict := true }

/-- Expressions that paths are held against. -/
def path : Dialect := { extended := false, sparse := true }

/-- Expressions of programs over fields. -/
def fields : Dialect :=
  { extended := true, controls := true, loose := true, shields := true, bare := true }

end Dialect

/-! ### Tokens -/

/-- What a parenthesis opens. -/
inductive Opening where
  | group
  | plain
  | look (ahead holds : Bool)
  deriving Repr, DecidableEq

/-- What an expression is written with. -/
inductive Token where
  | atom (r : Regex)
  | opening (o : Opening)
  | closing
  | bar
  /-- a count, and whether it is lazy; the text that it is written with -/
  | count (least : Nat) (most : Option Nat) (lazily : Bool) (shown : String)
  deriving Repr, DecidableEq

/-- The greatest count. -/
def countLimit : Nat := 32767

/-- The numbers in braces, and what follows them up to what closes them.  There is no count where
that is `none`. -/
def counts (t : Text) : Option (Nat × Option Nat) × Text :=
  let low := t.takeWhile Char.isDigit
  let rest := t.drop low.length
  match rest with
  | ',' :: more =>
    let high := more.takeWhile Char.isDigit
    (some (Integer.ofDigits low, if high.isEmpty then none else some (Integer.ofDigits high)),
      more.drop high.length)
  | rest =>
    if low.isEmpty then (none, rest)
    else (some (Integer.ofDigits low, some (Integer.ofDigits low)), rest)

/-- A count in braces and what follows it; `none` where the braces stand for themselves. -/
def braces (d : Dialect) (t : Text) : Except Fault (Option (Token × Text)) :=
  let close : Text := if d.extended then ['\x7d'] else ['\\', '\x7d']
  let (found, rest) := counts t
  match found with
  | some (least, most) =>
    if !rest.startsWith close then
      if d.loose then return none
      else if rest.isEmpty ∨ !Text.hasPart rest close then throw .braces
      else throw .content
    else if most.any (· < least) then throw .content
    else if countLimit < most.getD least then throw .size
    else return some (.count least most false "\x7b...\x7d", rest.drop close.length)
  | none =>
    if d.loose then return none
    else if !Text.hasPart rest close then throw .braces
    else throw .content

/-- The bytes that letters behind a backslash name. -/
def controlBytes : List (Char × UInt8) :=
  [('a', 7), ('f', 12), ('n', 10), ('r', 13), ('t', 9), ('v', 11)]

/-- The value of a digit up to `f`. -/
def digitValue (c : Char) : Nat :=
  if c.isDigit then c.toNat - '0'.toNat else c.toLower.toNat - 'a'.toNat + 10

/-- A number of at most so many digits to a base, and the text behind it. -/
def numeral (base width : Nat) (t : Text) : Option (Nat × Text) :=
  let isOne (c : Char) : Bool := (c.isDigit || c.isAlpha) && digitValue c < base
  let ds := (t.take width).takeWhile isOne
  if ds.isEmpty then none
  else some (ds.foldl (fun n c => base * n + digitValue c) 0, t.drop ds.length)

/-- The byte that a backslash and what stands behind it name by its number. -/
def numbered? : Text → Option (UInt8 × Text)
  | 'd' :: cs => (numeral 10 3 cs).map fun (n, rest) => (UInt8.ofNat n, rest)
  | 'o' :: cs => (numeral 8 3 cs).map fun (n, rest) => (UInt8.ofNat n, rest)
  | 'x' :: cs => (numeral 16 2 cs).map fun (n, rest) => (UInt8.ofNat n, rest)
  | 'c' :: c :: cs => some (UInt8.ofNat (c.toUpper.toNat ^^^ 64), cs)
  | _ => none

/-- The sets that letters behind a backslash name in every way of writing. -/
def namedSets : List (Char × Regex) :=
  [('w', .set true wordRanges), ('W', .set false wordRanges), ('s', .set true blankRanges),
    ('S', .set false blankRanges)]

/-- The places that characters behind a backslash name in every way of writing. -/
def namedAnchors : List (Char × Anchor) :=
  [('<', .wordStart), ('>', .wordEnd), ('b', .wordEdge), ('B', .wordInside), ('\x60', .textStart),
    ('\'', .textEnd)]

/-- What a letter behind a backslash names in the richest way of writing. -/
def richNames : List (Char × Regex) :=
  [('d', .set true digitRanges), ('D', .set false digitRanges),
    ('h', .set true [(9, 9), (32, 32)]), ('H', .set false [(9, 9), (32, 32)]),
    ('N', .set false [(10, 10)]), ('A', .anchor .textStart), ('z', .anchor .textEnd),
    ('Z', .anchor .lastEnd), ('K', .restart), ('R', .set true [(10, 13)])]

/-- The byte that a backslash names with the text behind it where it names nothing else. -/
def bareByte (c : Char) (cs : Text) : Regex × Text :=
  match c, numeral 8 3 (c :: cs), numeral 16 2 cs with
  | 'b', _, _ => (byte 8, cs)
  | 'x', _, some (n, rest) => (byte (UInt8.ofNat n), rest)
  | _, some (n, rest), _ => (byte (UInt8.ofNat n), rest)
  | _, none, _ => (((controlBytes.lookup c).map byte).getD (char c), cs)

/-- What a backslash stands for with the text behind it, of which it is known that it is no mark. -/
def escaped (d : Dialect) (t : Text) : Except Fault (Token × Text) :=
  match t with
  | [] => throw .backslash
  | c :: cs =>
    if d.bare then
      let (r, rest) := bareByte c cs
      return (.atom r, rest)
    else if let some r := (if d.rich then richNames.lookup c else none) then return (.atom r, cs)
    else if let some r := namedSets.lookup c then return (.atom r, cs)
    else if let some a := (if d.rich && (c == '<' || c == '>') then none else namedAnchors.lookup c)
    then return (.atom (.anchor a), cs)
    else if '1' ≤ c ∧ c ≤ '9' then return (.atom (.again (c.toNat - '0'.toNat)), cs)
    else if !d.controls then return (.atom (char c), cs)
    else if let some b := controlBytes.lookup c then return (.atom (byte b), cs)
    else if d.rich then
      match c, numeral 8 3 (c :: cs), numeral 16 2 cs with
      | 'e', _, _ => return (.atom (byte 27), cs)
      | '0', some (n, rest), _ => return (.atom (byte (UInt8.ofNat n)), rest)
      | 'x', _, some (n, rest) => return (.atom (byte (UInt8.ofNat n)), rest)
      | _, _, _ => return (.atom (char c), cs)
    else
      match numbered? t with
      | some (b, rest) => return (.atom (byte b), rest)
      | none => return (.atom (char c), cs)

/-- What a backslash and a character between brackets stand for. -/
def inBrackets (d : Dialect) (c : Char) : Option Element :=
  if d.shields then
    match (if d.rich then (richNames ++ namedSets).lookup c else none), controlBytes.lookup c with
    | some (.set true rs), _ => some (.several rs)
    | _, some b => some (.one (Char.ofNat b.toNat))
    | _, none => some (.one c)
  else if d.controls then
    match c with
    | 'n' => some (.one '\n')
    | 't' => some (.one '\t')
    | _ => none
  else none

/-- A mark with a meaning, if a character is one. -/
def mark? (c : Char) : Option Token :=
  List.lookup c [('(', Token.opening .group), (')', .closing), ('|', .bar),
    ('+', .count 1 none false "+"), ('?', .count 0 (some 1) false "?")]

/-- An expression or a part of one ends here. -/
def endsHere (t : Text) : Bool := t.isEmpty || t.startsWith "\\)" || t.startsWith "\\|"

/-- What a parenthesis opens, by the text behind it. -/
def openingOf : Text → Opening × Text
  | '?' :: ':' :: rest => (.plain, rest)
  | '?' :: '>' :: rest => (.plain, rest)
  | '?' :: '=' :: rest => (.look true true, rest)
  | '?' :: '!' :: rest => (.look true false, rest)
  | '?' :: '<' :: '=' :: rest => (.look false true, rest)
  | '?' :: '<' :: '!' :: rest => (.look false false, rest)
  | '?' :: '<' :: rest => (.group, (rest.dropWhile (· != '>')).drop 1)
  | '?' :: 'P' :: '<' :: rest => (.group, (rest.dropWhile (· != '>')).drop 1)
  | rest => (.group, rest)

/-- A count with the sign behind it that makes it lazy. -/
def withLaziness (d : Dialect) : Token → Text → Token × Text
  | .count least most _ shown, '?' :: rest =>
    if d.rich then (.count least most true shown, rest)
    else (.count least most false shown, '?' :: rest)
  | .count least most _ shown, '+' :: rest =>
    if d.rich then (.count least most false shown, rest)
    else (.count least most false shown, '+' :: rest)
  | t, rest => (t, rest)

/-- The tokens of a text; at most `n`.  `opens` says that an expression begins here. -/
def tokens (d : Dialect) : Nat → Bool → Text → Except Fault (List Token)
  | 0, _, _ => .ok []
  | _, _, [] => .ok []
  | n + 1, opens, c :: cs => do
    let also (t : Token) (opens : Bool) (rest : Text) : Except Fault (List Token) := do
      let (t, rest) := withLaziness d t rest
      let ts ← tokens d n opens rest
      return t :: ts
    let asItself (rest : Text) : Except Fault (List Token) := also (.atom (char c)) false rest
    let marked (t : Token) (rest : Text) : Except Fault (List Token) :=
      match t with
      | .opening _ =>
        let (o, rest) : Opening × Text := if d.rich then openingOf rest else (.group, rest)
        also (.opening o) true rest
      | .bar => also .bar true rest
      | .closing => also .closing false rest
      | t => also t opens rest
    if c = '\\' then
      match cs with
      | [] => throw .backslash
      | e :: rest =>
        if !d.extended && !d.sparse && e == '\x7b' then
          if opens then
            if d.strict then throw .preceding
            else also (.atom (char e)) false rest
          else
            match ← braces d rest with
            | some (t, rest) => also t false rest
            | none => also (.atom (char e)) false rest
        else
          match (if d.extended then none else mark? e) with
          | some (.count least most lazily shown) =>
            if opens || d.sparse then also (.atom (char e)) false rest
            else also (.count least most lazily shown) false rest
          | some t => marked t rest
          | none =>
            if d.rich && e == 'Q' then
              let quoted := rest.takeWhile (· != '\\')
              also (.atom (literally quoted)) false ((rest.drop quoted.length).drop 2)
            else
              let (t, rest) ← escaped d cs
              also t false rest
    else if c = '[' then
      if (d.strict ∨ d.sparse) ∧ (cs = [] ∨ cs = ['^']) then throw .nothing
      let (r, rest) ← brackets ⟨inBrackets d, !d.sparse⟩ cs
      also (.atom r) false rest
    else if c = '.' then
      also (.atom (if d.rich then .set false [(10, 10)] else anything)) false cs
    else if c = '*' then
      if opens && !d.extended then asItself cs
      else also (.count 0 none false "*") opens cs
    else if c = '^' && (d.extended || opens) then also (.atom (.anchor .lineStart)) opens cs
    else if c = '$' && (d.extended || endsHere cs) then
      also (.atom (.anchor (if d.rich then .lastEnd else .lineEnd))) false cs
    else if d.extended && c == '\x7b' then
      if opens && d.strict && !d.loose then throw .preceding
      match ← braces d cs with
      | some (t, rest) => also t opens rest
      | none => asItself cs
    else
      match (if d.extended || d.sparse then mark? c else none), d.sparse with
      | some (.count least most _ shown), true =>
        if opens then asItself cs else also (.count least most false shown) false cs
      | some t, false => marked t cs
      | _, _ => asItself cs

/-! ### Counts that count nothing -/

/-- The counts in front of which nothing stands that they could count, as they are written. -/
def idleCounts : Bool → List Token → List String
  | _, [] => []
  | opens, .count _ _ _ shown :: ts => (if opens then [shown] else []) ++ idleCounts opens ts
  | _, .opening _ :: ts | _, .bar :: ts => idleCounts true ts
  | opens, .atom (.anchor _) :: ts => idleCounts opens ts
  | _, _ :: ts => idleCounts false ts

/-! ### Reading -/

/-- An atom with the counts after it. -/
def counted : Regex → List Token → Regex × List Token
  | r, .count least most lazily _ :: ts => counted (.many r least most lazily) ts
  | r, ts => (r, ts)

/-- A count in front is counted again. -/
def countsTwice : List Token → Bool
  | .count .. :: .count least most lazily shown :: ts =>
    (shown != "+" && shown != "?") || countsTwice (.count least most lazily shown :: ts)
  | _ => false

/-- How far the reading has come. -/
structure Progress where
  /-- The number of groups so far, and those that are closed. -/
  groups : Nat
  closed : List Nat
  rest : List Token

mutual

/-- `either`; `depth` is how many parentheses are open. -/
def readEither (d : Dialect) : Nat → Nat → Progress → Except Fault (Regex × Progress)
  | 0, _, _ => .error .opening
  | n + 1, depth, p => do
    let (a, p) ← readSeq d n depth p
    match p.rest with
    | .bar :: rest => do
      let (b, p) ← readEither d n depth { p with rest }
      return (.either a b, p)
    | _ => return (a, p)

/-- `seq`. -/
def readSeq (d : Dialect) : Nat → Nat → Progress → Except Fault (Regex × Progress)
  | 0, _, _ => .error .opening
  | n + 1, depth, p => do
    match p.rest with
    | .atom r :: rest => do
      if let .again k := r then
        if !p.closed.contains k then throw .reference
      if let .anchor _ := r then
        if let (true, .count .. :: _) := (d.strict && !d.rich, rest) then throw .preceding
      if d.strict && !d.extended && countsTwice rest then throw .preceding
      let (a, rest) := counted r rest
      let (b, p) ← readSeq d n depth { p with rest }
      return (.seq a b, p)
    | .count .. :: rest =>
      if d.strict then throw .preceding
      readSeq d n depth { p with rest }
    | .opening o :: rest => do
      let own := p.groups + 1
      let groups := if o = .group then own else p.groups
      let (a, p) ← readEither d n (depth + 1) { p with groups, rest }
      match p.rest with
      | .closing :: rest => do
        let (a, closed) : Regex × List Nat := match o with
          | .group => (.group own a, own :: p.closed)
          | .plain => (a, p.closed)
          | .look ahead holds => (.look ahead holds a, p.closed)
        if d.strict && !d.extended && countsTwice rest then throw .preceding
        let (a, rest) := counted a rest
        let (b, p) ← readSeq d n depth { p with closed, rest }
        return (.seq a b, p)
      | _ => throw .opening
    | .closing :: rest =>
      if depth = 0 then
        if d.loose && !d.rich then
          let (a, rest) := counted (char ')') rest
          let (b, p) ← readSeq d n depth { p with rest }
          return (.seq a b, p)
        else throw .closing
      else return (.empty, p)
    | _ => return (.empty, p)

end

/-- The expression that a text is, and the counts in it that count nothing. -/
def readWith (d : Dialect) (t : Text) : Except Fault (Regex × List String) := do
  let ts ← tokens d t.length true t
  let (r, _) ← readEither d (2 * ts.length + 2) 0 ⟨0, [], ts⟩
  return (r, if d.strict then [] else idleCounts true ts)

/-- The expression that a text is. -/
def read (d : Dialect) (t : Text) : Except Fault Regex := (readWith d t).map (·.1)

end AliasShell.Regex
