/-
How scripts are read from lexemes.

    list     := joined ((';' | '&' | line end) joined)*
    joined   := pipe (('&&' | '||') pipe)*
    pipe     := '!'? command ('|' command)*
    command  := loop | condition | case | '(' list ')' | braces | definition | words

A script is read one command line at a time and each is run before the next one is read, so a fault
further down does not keep what stands above it from running.  The readers recurse on a number that
is larger than the lexemes can be many; each call that they make is on fewer lexemes or one step
down.
-/
import AliasShell.Machine.Script.Lexeme

namespace AliasShell.Script

/-- A lexeme, the line that it begins on, and what follows it. -/
structure Cursor where
  lexeme : Lexeme
  line : Nat
  rest : Source

/-- What a reader needs to know. -/
structure Grammar where
  inner : Inner
  /-- Texts that stand for others where a command begins. -/
  aliases : List (Text × Text)

namespace Cursor

/-- The lexeme is this word. -/
def isWord (c : Cursor) (w : Text) : Bool := c.lexeme.plain? == some w

/-- The lexeme is this mark. -/
def isMark (c : Cursor) (t : Text) : Bool := c.lexeme.isMark t

/-- The lexeme is a line end. -/
def isLineEnd (c : Cursor) : Bool := c.isMark ['\n']

/-- Nothing is left. -/
def atEnd (c : Cursor) : Bool :=
  match c.lexeme with
  | .finish => true
  | _ => false

/-- The words that end a list of commands. -/
def closers : List Text := ["do", "done", "then", "else", "elif", "fi", "esac", "\x7d"]

/-- The lexeme ends a list of commands. -/
def closes (c : Cursor) : Bool :=
  c.atEnd || c.isMark [')'] || c.isMark ";;" || closers.any c.isWord

/-- The fault that the lexeme is. -/
def unexpected {α : Type} (c : Cursor) (wanted : Option Text) : Attempt α :=
  .error (.unexpected c.lexeme.shown wanted, c.rest.line)

end Cursor

/-- The words quoted, as a fault names what it wanted. -/
def quotedName (t : Text) : Text := '"' :: t ++ ['"']

namespace Grammar

/-- The lexeme that a source begins with, and whether a seam was passed on the way to it. -/
def read (g : Grammar) (before : Source) : Attempt (Cursor × Bool) := do
  let s := skipBlanks before.bound before
  let (lexeme, rest) ← readLexeme g.inner s
  let passed : Text := before.text.take (before.text.length - s.text.length)
  return (⟨lexeme, s.line, rest⟩, passed.contains seam)

/-- The text that comes in the place of a word, with a seam if it ends with a blank. -/
def replacement (t : Text) : Text :=
  if t.getLast?.any fun c => c == ' ' || c == '\t' then t ++ [seam] else t

/-- The lexeme with the aliases that it stands for put in its place; at most `n`.  A word is not
replaced in the text that came in its own place, and behind a seam that is at its end. -/
def unalias (g : Grammar) : Nat → List Text → Cursor → Attempt Cursor
  | 0, _, c => .ok c
  | n + 1, used, c =>
    match c.lexeme.plain? with
    | none => .ok c
    | some w =>
      match g.aliases.lookup w with
      | none => .ok c
      | some t =>
        if used.contains w || reserved.contains w then .ok c
        else do
          let (c, passed) ← g.read { c.rest with text := replacement t ++ c.rest.text }
          g.unalias n (if passed then [] else w :: used) c

/-- The lexeme that a source begins with.  Behind a seam it may stand for something else. -/
def first (g : Grammar) (s : Source) : Attempt Cursor := do
  let (c, passed) ← g.read s
  if passed then g.unalias s.bound [] c else return c

/-- The next lexeme. -/
def next (g : Grammar) (c : Cursor) : Attempt Cursor := g.first c.rest

/-- The lexeme after this word. -/
def afterWord (g : Grammar) (w : Text) (c : Cursor) : Attempt Cursor :=
  if c.isWord w then g.next c else c.unexpected (some (quotedName w))

/-- The lexeme after this mark. -/
def afterMark (g : Grammar) (t : Text) (c : Cursor) : Attempt Cursor :=
  if c.isMark t then g.next c else c.unexpected (some (quotedName t))

/-- The lexeme after a parenthesis, in whose place no word has a meaning of its own. -/
def closing (g : Grammar) (c : Cursor) : Attempt Cursor :=
  match c.lexeme with
  | .word _ => .error (.unexpected "word" (some (quotedName [')'])), c.rest.line)
  | _ => g.afterMark [')'] c

/-- The first lexeme that is no line end; at most `n` are passed over. -/
def skipLines (g : Grammar) : Nat → Cursor → Attempt Cursor
  | 0, c => .ok c
  | n + 1, c => do
    if c.isLineEnd then
      let c ← g.next c
      g.skipLines n c
    else return c

/-- The first lexeme that is no line end, where a command may begin; at most `n` are passed over. -/
def ready (g : Grammar) : Nat → Cursor → Attempt Cursor
  | 0, c => .ok c
  | n + 1, c => do
    let c ← g.skipLines n c
    let c ← g.unalias n [] c
    if c.isLineEnd then g.ready n c else return c

/-- The redirections in front. -/
def redirects (g : Grammar) : Nat → Cursor → Attempt (List Redirect × Cursor)
  | 0, c => .ok ([], c)
  | n + 1, c =>
    match c.lexeme with
    | .redirect r => do
      let c ← g.next c
      let (rs, c) ← g.redirects n c
      return (r :: rs, c)
    | _ => .ok ([], c)

/-- The words in front. -/
def words (g : Grammar) : Nat → Cursor → Attempt (List Word × Cursor)
  | 0, c => .ok ([], c)
  | n + 1, c =>
    match c.lexeme with
    | .word w => do
      let c ← g.next c
      let (ws, c) ← g.words n c
      return (w :: ws, c)
    | _ => .ok ([], c)

/-- The patterns of a branch, up to the parenthesis after them. -/
def patterns (g : Grammar) : Nat → Cursor → Attempt (List Word × Cursor)
  | 0, c => c.unexpected none
  | n + 1, c => do
    let w := match c.lexeme with
      | .word w => w
      | _ => []
    let c ← g.next c
    if c.isMark ['|'] then
      let c ← g.next c
      let (ws, c) ← g.patterns n c
      return (w :: ws, c)
    else
      let c ← g.closing c
      return ([w], c)

/-- The settings, words and redirections of a command that is nothing else. -/
structure Simple where
  settings : List (Text × Word)
  words : List Word
  redirects : List Redirect

/-- The command as a script. -/
def Simple.script (a : Simple) (line : Nat) : Script :=
  .simple line a.settings a.words a.redirects

/-- Reads a command of words on; at most `n` lexemes.  Words are settings until one is not. -/
def simple (g : Grammar) : Nat → Simple → Cursor → Attempt (Simple × Cursor)
  | 0, a, c => .ok (a, c)
  | n + 1, a, c =>
    match c.lexeme with
    | .redirect r => do
      let c ← g.next c
      let c ← if a.words.isEmpty then g.unalias n [] c else .ok c
      g.simple n { a with redirects := a.redirects ++ [r] } c
    | .word w => do
      let next ← g.next c
      match (if a.words.isEmpty then Word.setting? w else none) with
      | some s =>
        let next ← g.unalias n [] next
        g.simple n { a with settings := a.settings ++ [s] } next
      | none => g.simple n { a with words := a.words ++ [w] } next
    | _ => .ok (a, c)

/-- A command with redirections after it. -/
def withRedirects (g : Grammar) (n line : Nat) (a : Script) (c : Cursor) :
    Attempt (Script × Cursor) := do
  let (rs, c) ← g.redirects n c
  return (if rs.isEmpty then a else .redirected line a rs, c)

/-- Names that cannot be given to a function. -/
def firmNames : List Text :=
  [".", ":", "break", "continue", "eval", "exec", "exit", "export", "readonly", "return", "set",
    "shift", "times", "trap", "unset"]

mutual

/-- Commands up to what ends a list; one may be demanded. -/
def list (g : Grammar) : Nat → Bool → Cursor → Attempt (List Script × Cursor)
  | 0, _, c => c.unexpected none
  | n + 1, demanded, c => do
    let c ← g.ready n c
    if c.atEnd || (c.closes && !demanded) then return ([], c)
    else
      let (a, c) ← g.joined n c
      if c.isMark [';'] || c.isLineEnd then
        let c ← g.next c
        let (as, c) ← g.list n false c
        return (a :: as, c)
      else if c.isMark ['&'] then
        let c ← g.next c
        let (as, c) ← g.list n false c
        return (.apart a :: as, c)
      else return ([a], c)

/-- Commands joined by `&&` and `||`. -/
def joined (g : Grammar) : Nat → Cursor → Attempt (Script × Cursor)
  | 0, c => c.unexpected none
  | n + 1, c => do
    let (a, c) ← g.pipe n c
    g.joinedTo n a c

/-- The commands joined to `a`. -/
def joinedTo (g : Grammar) : Nat → Script → Cursor → Attempt (Script × Cursor)
  | 0, a, c => .ok (a, c)
  | n + 1, a, c => do
    if c.isMark "&&" then
      let c ← g.next c
      let c ← g.ready n c
      let (b, c) ← g.pipe n c
      g.joinedTo n (.both a b) c
    else if c.isMark "||" then
      let c ← g.next c
      let c ← g.ready n c
      let (b, c) ← g.pipe n c
      g.joinedTo n (.either a b) c
    else return (a, c)

/-- Commands with `|` between them, perhaps negated. -/
def pipe (g : Grammar) : Nat → Cursor → Attempt (Script × Cursor)
  | 0, c => c.unexpected none
  | n + 1, c => do
    if c.isWord ['!'] then
      let c ← g.next c
      let c ← g.unalias n [] c
      if c.isWord ['!'] then c.unexpected none
      else
        let (a, c) ← g.pipe n c
        return (.negated a, c)
    else
      let (a, c) ← g.command n c
      let (as, c) ← g.pipeRest n c
      return (if as.isEmpty then a else .pipe (a :: as), c)

/-- The commands after a `|`. -/
def pipeRest (g : Grammar) : Nat → Cursor → Attempt (List Script × Cursor)
  | 0, c => .ok ([], c)
  | n + 1, c => do
    if c.isMark ['|'] then
      let c ← g.next c
      let c ← g.ready n c
      let (a, c) ← g.command n c
      let (as, c) ← g.pipeRest n c
      return (a :: as, c)
    else return ([], c)

/-- One command. -/
def command (g : Grammar) : Nat → Cursor → Attempt (Script × Cursor)
  | 0, c => c.unexpected none
  | n + 1, c => do
    let line := c.rest.line
    if c.isMark ['('] then
      let c ← g.next c
      let (as, c) ← g.list n true c
      let c ← g.afterMark [')'] c
      g.withRedirects n line (.shielded (ofList as)) c
    else if c.isWord "\x7b" then
      let c ← g.next c
      let (as, c) ← g.list n true c
      let c ← g.afterWord "\x7d" c
      g.withRedirects n line (ofList as) c
    else if c.isWord "if" then
      let c ← g.next c
      let (a, c) ← g.choice n c
      g.withRedirects n line a c
    else if c.isWord "while" || c.isWord "until" then
      let fails := c.isWord "until"
      let c ← g.next c
      let (test, c) ← g.list n true c
      let c ← g.afterWord "do" c
      let (body, c) ← g.list n true c
      let c ← g.afterWord "done" c
      g.withRedirects n line (.loop fails (ofList test) (ofList body)) c
    else if c.isWord "for" then
      let c ← g.next c
      g.each n line c
    else if c.isWord "case" then
      let c ← g.next c
      g.select n line c
    else if (c.lexeme.plain?).any reserved.contains then c.unexpected none
    else
      let (a, after) ← g.simple n ⟨[], [], []⟩ c
      match a with
      | ⟨[], [], []⟩ => c.unexpected none
      | ⟨[], [w], []⟩ =>
        if after.isMark ['('] then g.definition n w after else return (a.script line, after)
      | _ => return (a.script line, after)

/-- A function, from the parenthesis after its name on. -/
def definition (g : Grammar) : Nat → Word → Cursor → Attempt (Script × Cursor)
  | 0, _, c => c.unexpected none
  | n + 1, w, c => do
    let c ← g.next c
    let c ← g.closing c
    match w.plain? with
    | none => .error (.badFunctionName, c.line)
    | some name =>
      if Word.isName name && !firmNames.contains name then
        let c ← g.ready n c
        let (body, c) ← g.command n c
        return (.define name body, c)
      else .error (.badFunctionName, c.line)

/-- A condition after its first word. -/
def choice (g : Grammar) : Nat → Cursor → Attempt (Script × Cursor)
  | 0, c => c.unexpected none
  | n + 1, c => do
    let (test, c) ← g.list n true c
    let c ← g.afterWord "then" c
    let (yes, c) ← g.list n true c
    if c.isWord "elif" then
      let c ← g.next c
      let (no, c) ← g.choice n c
      return (.choice (ofList test) (ofList yes) no, c)
    else if c.isWord "else" then
      let c ← g.next c
      let (no, c) ← g.list n true c
      let c ← g.afterWord "fi" c
      return (.choice (ofList test) (ofList yes) (ofList no), c)
    else
      let c ← g.afterWord "fi" c
      return (.choice (ofList test) (ofList yes) nothing, c)

/-- A loop over items after its first word. -/
def each (g : Grammar) : Nat → Nat → Cursor → Attempt (Script × Cursor)
  | 0, _, c => c.unexpected none
  | n + 1, line, c => do
    match c.lexeme.plain? with
    | none => .error (.badLoopName, c.rest.line)
    | some name =>
      if !Word.isName name then .error (.badLoopName, c.rest.line)
      else
        let c ← g.next c
        let c ← g.skipLines n c
        let (items, c) ← (do
          if c.isWord "in" then
            let c ← g.next c
            let (ws, c) ← g.words n c
            if c.isMark [';'] || c.isLineEnd then
              let c ← g.next c
              return (some ws, c)
            else c.unexpected none
          else if c.isMark [';'] then
            let c ← g.next c
            return (none, c)
          else return (none, c) : Attempt (Option (List Word) × Cursor))
        let c ← g.ready n c
        let c ← g.afterWord "do" c
        let (body, c) ← g.list n true c
        let c ← g.afterWord "done" c
        g.withRedirects n line (.each line name items (ofList body)) c

/-- A choice between patterns after its first word. -/
def select (g : Grammar) : Nat → Nat → Cursor → Attempt (Script × Cursor)
  | 0, _, c => c.unexpected none
  | n + 1, line, c => do
    match c.lexeme with
    | .word subject =>
      let c ← g.next c
      let c ← g.skipLines n c
      let c ← g.afterWord "in" c
      let (branches, c) ← g.branches n c
      g.withRedirects n line (.select line subject branches) c
    | _ => c.unexpected (some "word")

/-- The branches of a choice between patterns, and the word that ends it. -/
def branches (g : Grammar) : Nat → Cursor → Attempt (List (List Word × Script) × Cursor)
  | 0, c => c.unexpected none
  | n + 1, c => do
    let c ← g.skipLines n c
    if c.isWord "esac" then
      let c ← g.next c
      return ([], c)
    else
      let c ← if c.isMark ['('] then g.next c else pure c
      let (ws, c) ← g.patterns n c
      let (body, c) ← g.list n false c
      if c.isMark ";;" then
        let c ← g.next c
        let (bs, c) ← g.branches n c
        return ((ws, ofList body) :: bs, c)
      else if c.isWord "esac" then
        let c ← g.next c
        return ([(ws, ofList body)], c)
      else c.unexpected (some (quotedName ";;"))

end

/-- Commands up to the end of a line; at most `n`. -/
def line (g : Grammar) (bound : Nat) : Nat → Cursor → Attempt (List Script × Source)
  | 0, c => c.unexpected none
  | n + 1, c => do
    let c ← g.unalias bound [] c
    if c.atEnd || c.isLineEnd then return ([], c.rest)
    else
      let (a, c) ← g.joined bound c
      if c.atEnd || c.isLineEnd then return ([a], c.rest)
      else if c.isMark [';'] then
        let c ← g.next c
        let (as, rest) ← g.line bound n c
        return (a :: as, rest)
      else if c.isMark ['&'] then
        let c ← g.next c
        let (as, rest) ← g.line bound n c
        return (.apart a :: as, rest)
      else c.unexpected none

end Grammar

/-! ### Scripts within words -/

/-- A number that is larger than the readers can call each other often on a source. -/
def Source.callBound (s : Source) : Nat := 8 * s.text.length + 16

/-- What a reader makes of a source, with the contents of the here-documents in their places: if
there are any, the source is read a second time. -/
def Grammar.furnished {α : Type} (g : Grammar) (read : Grammar → Source → Attempt (α × Source))
    (s : Source) : Attempt (α × Source) := do
  let (a, rest) ← read g s.anew
  if rest.documents.isEmpty then return (a, rest)
  else read { g with inner := { g.inner with documents := rest.documents } } s.anew

/-- Reads a script and the lexeme after it. -/
def Grammar.script (g : Grammar) (s : Source) : Attempt (Script × Cursor) := do
  let c ← g.first s
  let (as, c) ← g.list s.callBound false c
  return (ofList as, c)

/-- Reads a script up to a closing parenthesis, and that one too. -/
def Grammar.closedScript (g : Grammar) (s : Source) : Attempt (Script × Source) := do
  let (a, c) ← g.script s
  if c.isMark [')'] then return (a, c.rest) else c.unexpected (some (quotedName [')']))

/-- Reads the script that a source begins with. -/
def Grammar.firstScript (g : Grammar) (s : Source) : Attempt (Script × Source) := do
  let (a, c) ← g.script s
  return (a, c.rest)

/-- Reads scripts within words, where as many more may stand within each other. -/
def Inner.nested (aliases : List (Text × Text)) : Nat → Inner
  | 0 => ⟨fun s => s.fault .openSubstitution, fun s => s.fault .openSubstitution, []⟩
  | depth + 1 =>
    { closed := fun s => do
        let g : Grammar := ⟨Inner.nested aliases depth, aliases⟩
        let (a, rest) ← g.furnished Grammar.closedScript s
        return (a, { s with text := rest.text, line := rest.line })
      whole := fun s => do
        let g : Grammar := ⟨Inner.nested aliases depth, aliases⟩
        let (a, _) ← g.furnished Grammar.firstScript s
        return a
      documents := [] }

/-- How deep scripts may stand within words. -/
def nestingLimit : Nat := 4000

/-- The commands on the next line that has any, and what follows them; `none` at the end of the
script. -/
def Grammar.nextLine (g : Grammar) (s : Source) : Attempt (Option (List Script) × Source) := do
  let c ← g.first s
  let c ← g.skipLines s.bound c
  if c.atEnd then return (none, c.rest)
  else
    let (as, rest) ← g.line s.callBound s.bound c
    return (some as, rest)

/-- The commands on the next line of a script that has any, and what follows them; `none` at the end
of the script. -/
def nextLine (aliases : List (Text × Text)) (s : Source) :
    Attempt (Option (List Script × Source)) := do
  let g : Grammar := ⟨Inner.nested aliases nestingLimit, aliases⟩
  let (as, rest) ← g.furnished Grammar.nextLine s
  return as.map fun as => (as, rest.anew)

end AliasShell.Script
