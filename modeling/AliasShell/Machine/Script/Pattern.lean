/-
Patterns: texts in which `*`, `?` and brackets stand for others.

A character of a pattern that was quoted stands for itself.  Matching recurses on the pattern, and a
`*` tries every end of the text.  `expandPaths` is what a pattern among the words of a command
becomes: the paths that fit it, part by part.
-/
import AliasShell.Machine.Files.Change
import AliasShell.Text.Order

namespace AliasShell.Script

/-- A character of a word after expansion. -/
structure Glyph where
  char : Char
  quoted : Bool
  deriving Repr, DecidableEq

namespace Glyph

/-- The characters alone. -/
def text (gs : List Glyph) : Text := gs.map Glyph.char

/-- The characters of a text, all of them quoted or none. -/
def ofText (quoted : Bool) (t : Text) : List Glyph := t.map fun c => ⟨c, quoted⟩

end Glyph

/-- What stands for a piece of text. -/
inductive Atom where
  /-- any text -/
  | star
  /-- one byte of these ranges, or one of no range -/
  | set (inside : Bool) (ranges : List (Char × Char))
  deriving Repr, DecidableEq

/-- A pattern. -/
abbrev Pattern := List Atom

namespace Pattern

/-- The atom fits this one byte. -/
def fitsChar (inside : Bool) (ranges : List (Char × Char)) (c : Char) : Bool :=
  ranges.any (fun r => r.1.toNat ≤ c.toNat && c.toNat ≤ r.2.toNat) == inside

/-- The lengths from 0 up to that of a list. -/
def lengths {α : Type} (bytes : List α) : List Nat := List.range (bytes.length + 1)

/-- The pattern fits the whole text. -/
def fits : Pattern → Text → Bool
  | [], t => t.isEmpty
  | .star :: p, t => (lengths t).any fun n => fits p (t.drop n)
  | .set inside ranges :: p, t =>
    match t with
    | [] => false
    | c :: cs => fitsChar inside ranges c && fits p cs

/-- The classes of characters that brackets may name. -/
def classes : List (Text × List (Char × Char)) :=
  [("alnum", [('0', '9'), ('A', 'Z'), ('a', 'z')]), ("alpha", [('A', 'Z'), ('a', 'z')]),
    ("blank", [(' ', ' '), ('\t', '\t')]), ("cntrl", [('\x00', '\x1f'), ('\x7f', '\x7f')]),
    ("digit", [('0', '9')]), ("graph", [('!', '~')]), ("lower", [('a', 'z')]),
    ("print", [(' ', '~')]), ("punct", [('!', '/'), (':', '@'), ('[', '\x60'), ('\x7b', '~')]),
    ("space", [('\t', '\x0d'), (' ', ' ')]), ("upper", [('A', 'Z')]),
    ("xdigit", [('0', '9'), ('A', 'F'), ('a', 'f')])]

/-- The class that a text names after `[:`, and how many characters that took. -/
def class? (gs : List Glyph) : Option (List (Char × Char) × Nat) :=
  let name := (Glyph.text gs).takeWhile Char.isAlpha
  if (Glyph.text (gs.drop name.length)).take 2 = [':', ']'] then
    (classes.lookup name).map fun rs => (rs, name.length + 2)
  else none

/-- The ranges in brackets up to the one that closes them; at most `n`.  A closing bracket that
comes first stands for itself. -/
def ranges? : Nat → Bool → List Glyph → Option (List (Char × Char) × List Glyph)
  | 0, _, _ => none
  | n + 1, isFirst, gs =>
    match gs with
    | [] => none
    | g :: rest =>
      if g.char = ']' ∧ !g.quoted ∧ !isFirst then some ([], rest)
      else
        let named :=
          if g.char = '[' ∧ !g.quoted ∧ (rest.head?).any (·.char == ':') then class? (rest.drop 1)
          else none
        match named with
        | some (rs, k) =>
          (ranges? n false (rest.drop (k + 1))).map fun (more, after) => (rs ++ more, after)
        | none =>
          match rest with
          | hyphen :: last :: after =>
            if hyphen.char = '-' ∧ !hyphen.quoted ∧ !(last.char = ']' ∧ !last.quoted) then
              (ranges? n false after).map fun (more, after) => ((g.char, last.char) :: more, after)
            else (ranges? n false rest).map fun (more, after) => ((g.char, g.char) :: more, after)
          | _ => (ranges? n false rest).map fun (more, after) => ((g.char, g.char) :: more, after)

/-- The brackets after a `[`, and what follows them. -/
def brackets? (gs : List Glyph) : Option (Atom × List Glyph) :=
  let (inside, gs) := match gs with
    | g :: rest => if g.char = '!' ∧ !g.quoted then (false, rest) else (true, gs)
    | [] => (true, gs)
  (ranges? (gs.length + 1) true gs).map fun (rs, rest) => (.set inside rs, rest)

/-- The atom for one character. -/
def only (c : Char) : Atom := .set true [(c, c)]

/-- The atoms of glyphs; at most `n`.  An unquoted backslash shields what follows. -/
def atoms : Nat → List Glyph → Pattern
  | 0, _ => []
  | _, [] => []
  | n + 1, g :: gs =>
    if g.quoted then only g.char :: atoms n gs
    else if g.char = '*' then .star :: atoms n gs
    else if g.char = '?' then .set false [] :: atoms n gs
    else if g.char = '[' then
      match brackets? gs with
      | some (a, rest) => a :: atoms n rest
      | none => only '[' :: atoms n gs
    else if g.char = '\\' then
      match gs with
      | h :: rest => only h.char :: atoms n rest
      | [] => [only '\\']
    else only g.char :: atoms n gs

/-- The pattern that glyphs are. -/
def ofGlyphs (gs : List Glyph) : Pattern :=
  atoms gs.length gs

/-- A text with `!` for every `^` that turns brackets round. -/
def turned : Text → Text
  | '\\' :: c :: cs => '\\' :: c :: turned cs
  | '[' :: '^' :: cs => '[' :: '!' :: turned cs
  | c :: cs => c :: turned cs
  | [] => []

/-- The pattern that a text is, where a `^` turns brackets round as well. -/
def ofText (t : Text) : Pattern := ofGlyphs (Glyph.ofText false (turned t))

/-- Glyphs that stand for more than themselves. -/
def isMagic (gs : List Glyph) : Bool :=
  gs.any fun g => !g.quoted && (g.char == '*' || g.char == '?' || g.char == '[')

/-- Stands between texts that are several and taken together. -/
def division : Char := '\x00'

/-- The first of texts that are taken together. -/
def part (t : Text) : Text := t.takeWhile (· != division)

/-- A text without the shortest or longest piece at one end that the pattern fits.  Of texts that
are taken together a pattern sees no more than one at a time, and a piece that is looked for from
the front begins or ends in the first one. -/
def strip (p : Pattern) (fromEnd longest : Bool) (t : Text) : Text :=
  let found :=
    if fromEnd then
      let ns := if longest then lengths (part t) else (lengths t).reverse
      (ns.find? fun n => fits p (part (t.drop n))).map t.take
    else
      let ns := if longest then (lengths t).reverse else lengths (part t)
      (ns.find? fun n => fits p (part (t.take n))).map t.drop
  found.getD t

/-! ### Paths -/

/-- Glyphs cut at every `/`, quoted or not. -/
def pathParts : List Glyph → List (List Glyph)
  | [] => [[]]
  | g :: gs =>
    if g.char = '/' then [] :: pathParts gs
    else
      match pathParts gs with
      | [] => [[g]]
      | p :: ps => (g :: p) :: ps

/-- The names in a directory that fit a part of a path.  Hidden ones need a point in the pattern. -/
def namesFor (fs : Files) (dir : Text) (part : List Glyph) : List Text :=
  match fs.readDir (if dir.isEmpty then ['.'] else dir) with
  | .error _ => []
  | .ok entries =>
    let hidden := (part.head?).any fun g => g.char == '.'
    let names := entries.map (·.1) ++ if hidden then [['.'], ['.', '.']] else []
    let p := ofGlyphs part
    Text.sortedSet (names.filter fun name =>
      (hidden || name.head? != some '.') && fits p name)

/-- The paths that begin with `dir` and go on with parts that fit. -/
def pathsFrom (fs : Files) : Text → List (List Glyph) → List Text
  | dir, [] => [dir]
  | dir, [part] =>
    if isMagic part then (namesFor fs dir part).map (dir ++ ·)
    else
      let p := dir ++ Glyph.text part
      if part.isEmpty || (fs.namedNode p).toOption.isSome then [p] else []
  | dir, part :: parts =>
    if isMagic part then
      ((namesFor fs dir part).filter fun name => fs.isDir (dir ++ name)).flatMap fun name =>
        pathsFrom fs (dir ++ name ++ ['/']) parts
    else pathsFrom fs (dir ++ Glyph.text part ++ ['/']) parts

/-- What a word becomes among the words of a command: the paths that it fits, or itself. -/
def expandPaths (fs : Files) (gs : List Glyph) : List Text :=
  if isMagic gs then
    let found := Text.sortedSet (pathsFrom fs [] (pathParts gs))
    if found.isEmpty then [Glyph.text gs] else found
  else [Glyph.text gs]

end Pattern

end AliasShell.Script
