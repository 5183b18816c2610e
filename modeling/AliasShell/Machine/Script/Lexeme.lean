/-
The lexemes of a script: words, marks and redirections, one read at a time.

A word may hold a script, for which `Inner` stands; how one is read is in `Script.Reader`.  The
contents of a here-document stand after the line with its redirection, so they are read when that
line ends and are numbered.  What is read a second time with the contents at hand has them where
they belong.  Reading a word recurses on a number that is larger than the text is long.
-/
import AliasShell.Machine.Script.Syntax
import AliasShell.Number.Integer

namespace AliasShell.Script

/-- A here-document whose contents are yet to come. -/
structure Demand where
  /-- Tabs at the beginning of its lines do not count. -/
  tabs : Bool
  /-- The line that ends it. -/
  stop : Text
  /-- Nothing in it is expanded. -/
  quoted : Bool
  deriving Repr, DecidableEq

/-- Text that is read as a script. -/
structure Source where
  text : Text
  /-- The line that the text begins on. -/
  line : Nat
  /-- The here-documents that begin after this line. -/
  wanted : List Demand
  /-- The contents of those that were read. -/
  documents : List Word
  /-- The here-document that is being read. -/
  within : Option Demand

/-- Why a text is no script. -/
inductive Fault where
  | openQuote
  | openBrace
  | openSum
  | openSubstitution
  | unexpected (found : Text) (wanted : Option Text)
  | badChannel
  | badLoopName
  | badFunctionName
  deriving Repr, DecidableEq

/-- The wording of a fault. -/
def Fault.message : Fault → Text
  | .openQuote => "Unterminated quoted string"
  | .openBrace => "Missing '\x7d'"
  | .openSum => "Missing '))'"
  | .openSubstitution => "EOF in backquote substitution"
  | .unexpected found none => found ++ " unexpected"
  | .unexpected found (some wanted) => found ++ " unexpected (expecting " ++ wanted ++ ")"
  | .badChannel => "Bad fd number"
  | .badLoopName => "Bad for loop variable"
  | .badFunctionName => "Bad function name"

/-- The line that the fault is noted on has not been begun. -/
def Fault.isAtLineEnd : Fault → Bool
  | .unexpected found _ => found == "newline".toList
  | _ => false

/-- What reading leads to: a fault and its line, or what was read. -/
abbrev Attempt := Except (Fault × Nat)

namespace Source

/-- The source of a text.  The character of number 0 is not read. -/
def ofText (t : Text) : Source := ⟨t.filter (· != '\x00'), 1, [], [], none⟩

/-- The source for a script of its own, which has no here-documents so far. -/
def anew (s : Source) : Source := { s with wanted := [], documents := [], within := none }

/-- The source after characters that are no line ends. -/
def drop (s : Source) (n : Nat) : Source := { s with text := s.text.drop n }

/-- The source after its first character, a line end or not. -/
def skip (s : Source) : Source :=
  match s.text with
  | [] => s
  | c :: cs => { s with text := cs, line := if c = '\n' then s.line + 1 else s.line }

/-- The source at the beginning of a line, and whether the here-document that is being read has come
to its end, in which case the line that says so is passed. -/
def beginLine (s : Source) : Source × Bool :=
  match s.within with
  | none => (s, false)
  | some d =>
    let s := if d.tabs then { s with text := s.text.dropWhile (· == '\t') } else s
    let line := s.text.takeWhile (· != '\n')
    if line = d.stop then
      ({ s with text := s.text.drop (line.length + 1), line := s.line + 1 }, true)
    else (s, false)

/-- A fault on the line of the source. -/
def fault {α : Type} (s : Source) (f : Fault) : Attempt α := .error (f, s.line)

/-- The source after a text that it begins with. -/
def skipText (s : Source) (t : Text) : Source := t.foldl (fun s _ => s.skip) s

end Source

/-- Stands where a text ends that came in the place of a word and has a blank at its end.  No script
holds this character. -/
def seam : Char := '\x00'

/-- Reads scripts inside of words. -/
structure Inner where
  /-- a script up to a closing parenthesis, which is read too -/
  closed : Source → Attempt (Script × Source)
  /-- a text of its own, up to where it is no script -/
  whole : Source → Attempt Script
  /-- the contents of the here-documents of the script around, as far as they are known -/
  documents : List Word

/-! ### Words -/

/-- Where the characters of a word stand. -/
inductive Mode where
  | bare
  | double
  | here
  | brace (quoted : Bool)
  /-- within an expression and this many parentheses -/
  | sum (depth : Nat)
  deriving Repr, DecidableEq

namespace Mode

/-- What is expanded here stays one field. -/
def quotes : Mode → Bool
  | .bare | .brace false => false
  | _ => true

/-- The character ends what is read in this mode, with `next` after it.  A parenthesis too many in
an expression is one of its characters if it stands alone. -/
def stops (m : Mode) (c : Char) (next : Text) : Bool :=
  match m with
  | .bare => " \t\n;&|<>()".toList.contains c
  | .double => c == '"'
  | .here => false
  | .brace _ => c == '}'
  | .sum depth => c == ')' && depth == 0 && (joined next).head? == some ')'
where
  /-- A text without shielded line ends in front. -/
  joined : Text → Text
    | '\\' :: '\n' :: cs => joined cs
    | cs => cs

/-- A backslash shields the character. -/
def shields (m : Mode) (c : Char) : Bool :=
  match m with
  | .bare | .brace false => true
  | .double => "$\"\\".toList.contains c || c == '\x60'
  | .brace true => "$\"\\\x7d".toList.contains c || c == '\x60'
  | .here | .sum _ => "$\\".toList.contains c || c == '\x60'

/-- The mode after a character. -/
def next (m : Mode) (c : Char) : Mode :=
  match m with
  | .sum depth => if c = '(' then .sum (depth + 1) else if c = ')' then .sum (depth - 1) else m
  | _ => m

/-- The end of the text here.  Quotes in a here-document stand within braces. -/
def atEnd (m : Mode) (s : Source) : Attempt (Word × Source) :=
  match m with
  | .bare | .here => .ok ([], s)
  | .double => s.fault (if s.within.isSome then .openBrace else .openQuote)
  | .brace _ => s.fault .openBrace
  | .sum _ => s.fault .openSum

end Mode

/-- The parameters that are one character. -/
def special? (c : Char) : Option Param :=
  match c with
  | '#' => some .count
  | '*' => some (.all false)
  | '@' => some (.all true)
  | '?' => some .status
  | '$' => some .self
  | '!' => some .background
  | '-' => some .options
  | _ => if c.isDigit then some (.argument (c.toNat - '0'.toNat)) else none

/-- The parameter that a text begins with in braces, and the number of its characters. -/
def braced? : Text → Option (Param × Nat)
  | [] => none
  | c :: cs =>
    if Word.startsName c then
      let name := (c :: cs).takeWhile Word.isNameChar
      some (.named name, name.length)
    else if c.isDigit then
      let ds := (c :: cs).takeWhile Char.isDigit
      some (.argument (Integer.ofDigits ds), ds.length)
    else (special? c).map fun p => (p, 1)

/-- The parameter whose length is asked for, and the number of its characters. -/
def measured? : Text → Option (Param × Nat)
  | '#' :: cs =>
    match braced? cs with
    | some (p, n) => if (cs.drop n).head? = some '}' then some (p, n + 1) else none
    | none => none
  | _ => none

/-- How a parameter in braces goes on, and the number of characters that say so. -/
def otherwise? : Text → Option (Otherwise × Bool × Nat)
  | ':' :: c :: _ => (simple? c).map fun how => (how, true, 2)
  | c :: _ => (simple? c).map fun how => (how, false, 1)
  | [] => none
where
  /-- The character that says what happens without a value. -/
  simple? (c : Char) : Option Otherwise :=
    List.lookup c [('-', .use), ('=', .assign), ('?', .fail), ('+', .also)]

/-- What is taken off a parameter in braces, and the number of characters that say so. -/
def trimming? : Text → Option (Bool × Bool × Nat)
  | '%' :: '%' :: _ => some (true, true, 2)
  | '%' :: _ => some (true, false, 1)
  | '#' :: '#' :: _ => some (false, true, 2)
  | '#' :: _ => some (false, false, 1)
  | _ => none

/-- A text up to the mark that closes a script between two of them, with the number of characters
that it took. -/
def backquoted? (double : Bool) : Text → Option (Text × Nat)
  | [] => none
  | '\\' :: c :: cs =>
    let bare := c == '\x60' || c == '$' || c == '\\' || (double && c == '"')
    (backquoted? double cs).map fun (t, n) => (if bare then c :: t else '\\' :: c :: t, n + 2)
  | c :: cs =>
    if c = '\x60' then some ([], 1)
    else (backquoted? double cs).map fun (t, n) => (c :: t, n + 1)

/-- Braces with something in them that has no meaning.  A line end right there does not count. -/
def readMeaningless (words : Mode → Source → Attempt (Word × Source)) (q : Bool) (s : Source) :
    Attempt (Word × Source) := do
  let (_, s) ← words (.brace q) (if s.text.head? = some '\n' then s.drop 1 else s)
  return ([.meaningless], s.drop 1)

/-- The source after shielded line ends in front; at most `n`. -/
def shieldedLines : Nat → Source → Source
  | 0, s => s
  | n + 1, s =>
    match s.text with
    | '\\' :: '\n' :: _ => shieldedLines n s.skip.skip
    | _ => s

/-- What follows a `$`; `words` reads the words in braces. -/
def readDollar (inner : Inner) (words : Mode → Source → Attempt (Word × Source)) (q : Bool)
    (s : Source) : Attempt (Word × Source) :=
  match s.text with
  | '(' :: '(' :: _ => do
    let (w, s) ← words (.sum 0) (s.drop 2)
    return ([.sum q w], (shieldedLines s.text.length s.skip).skip)
  | '(' :: _ => do
    let (body, s) ← inner.closed (s.drop 1)
    return ([.output q body], s)
  | '{' :: _ =>
    let s := s.drop 1
    match measured? s.text with
    | some (p, n) => .ok ([.length q p], s.drop (n + 1))
    | none =>
      match braced? s.text with
      | none => readMeaningless words q s
      | some (p, n) =>
        let s := s.drop n
        if s.text.head? = some '}' then .ok ([.param q p], s.drop 1)
        else
          match otherwise? s.text, trimming? s.text with
          | some (how, emptyToo, n), _ => do
            let (w, s) ← words (.brace q) (s.drop n)
            return ([.instead q p how emptyToo w], s.drop 1)
          | none, some (fromEnd, longest, n) => do
            let (w, s) ← words (.brace false) (s.drop n)
            return ([.strip q p fromEnd longest w], s.drop 1)
          | none, none => readMeaningless words q s
  | c :: cs =>
    if Word.startsName c then
      let name := (c :: cs).takeWhile Word.isNameChar
      .ok ([.param q (.named name)], s.drop name.length)
    else
      match special? c with
      | some p => .ok ([.param q p], s.drop 1)
      | none => .ok ([.literal q ['$']], s)
  | [] => .ok ([.literal q ['$']], s)

/-- Two words as one. -/
def Word.join : Word → Word → Word
  | [.literal q t], w => Word.addText q t w
  | v, w => v ++ w

/-- The part tells of all arguments. -/
def Part.tellsAll : Part → Bool
  | .param _ (.all _) | .strip _ (.all _) _ _ _ | .instead _ (.all _) _ _ _ => true
  | _ => false

/-- A word that stands in quotes, which is a field even if it is empty.  Quotes around all arguments
and nothing else are none. -/
def Word.inQuotes (w : Word) : Word :=
  match w with
  | [] => [.literal true []]
  | [.param _ (.all true)] => w
  | _ => if w.any Part.tellsAll then w ++ [.literal true []] else w

/-- The parts of a word from here on, up to what stops it. -/
def readParts (inner : Inner) : Nat → Mode → Source → Attempt (Word × Source)
  | 0, _, s => s.fault .openQuote
  | n + 1, m, s =>
    match s.text with
    | [] => m.atEnd s
    | c :: cs =>
      let q := m.quotes
      let goOn (v : Word) (s : Source) : Attempt (Word × Source) := do
        let (w, s) ← readParts inner n (m.next c) s
        return (Word.join v w, s)
      if m.stops c cs then .ok ([], s)
      else if c = '\\' then
        match cs with
        | [] => goOn [.literal q ['\\']] s.skip
        | '\n' :: _ => goOn [] s.skip.skip
        | d :: _ =>
          if m.shields d then goOn [.literal true [d]] s.skip.skip
          else goOn [.literal q ['\\']] s.skip
      else if c = '\'' && (m == .bare || m == .brace false) then
        let t := cs.takeWhile (· != '\'')
        let after := s.skip.skipText t
        if after.text.isEmpty then after.fault .openQuote
        else goOn [.literal true (t.filter (· != seam))] after.skip
      else if c = '"' && (m == .bare || m == .brace false || m == .brace true) then do
        let (w, after) ← readParts inner n .double s.skip
        goOn w.inQuotes after.skip
      else if c = '$' then do
        let (w, after) ← readDollar inner (readParts inner n) q s.skip
        goOn w after
      else if c = '\x60' then
        match backquoted? (m == .double) cs with
        | none => (s.skipText s.text).fault .openSubstitution
        | some (t, k) => do
          let body ← inner.whole { s.anew with text := t, line := 1 }
          goOn [.output q body] (s.skip.skipText (cs.take k))
      else if c = seam then goOn [] s.skip
      else if c = '\n' then
        match s.skip.beginLine with
        | (after, true) => do
          let (w, after) ← m.atEnd after
          return (Word.join [.literal q [c]] w, after)
        | (after, false) => goOn [.literal q [c]] after
      else goOn [.literal q [c]] s.skip

/-- A number that is larger than a text is long. -/
def Source.bound (s : Source) : Nat := s.text.length + 1

/-- The word that a source begins with, if anything can be read of one. -/
def readWord (inner : Inner) (s : Source) : Attempt (Word × Source) :=
  readParts inner s.bound .bare s

/-! ### Here-documents -/

/-- The delimiter that a word names, and whether any of it is quoted. -/
def delimiter (w : Word) : Text × Bool :=
  (w.flatMap fun
      | .literal _ t => t
      | _ => [],
    w.any fun
      | .literal q _ => q
      | _ => false)

/-- The contents of a here-document in which nothing is expanded; at most `n` lines. -/
def plainDocument : Nat → Source → Text × Source
  | 0, s => ([], s)
  | n + 1, s =>
    match s.beginLine with
    | (s, true) => ([], s)
    | (s, false) =>
      let line := s.text.takeWhile (· != '\n')
      if line.length = s.text.length then (line, s.drop line.length)
      else
        let (t, s) := plainDocument n (s.drop line.length).skip
        (line ++ '\n' :: t, s)

/-- Reads the contents of a here-document that the source begins with. -/
def readDocument (inner : Inner) (s : Source) (d : Demand) : Attempt Source := do
  let here := { s.anew with within := some d }
  let (content, after) ← (
    if d.quoted then
      let (t, after) := plainDocument s.bound here
      return ([.literal true t], after)
    else
      match here.beginLine with
      | (after, true) => return ([], after)
      | (here, false) => readParts inner here.bound .here here : Attempt (Word × Source))
  return { s with
    text := after.text
    line := after.line
    documents := s.documents ++ [content] }

/-- The source after a line end and the here-documents that begin there. -/
def endLine (inner : Inner) (s : Source) : Attempt Source :=
  s.wanted.foldlM (readDocument inner) { s.skip with wanted := [] }

/-! ### Lexemes -/

/-- What a script is made of. -/
inductive Lexeme where
  | word (w : Word)
  /-- what separates and joins commands -/
  | mark (t : Text)
  | redirect (r : Redirect)
  | finish

/-- The words with a meaning of their own where a command begins. -/
def reserved : List Text :=
  ["!", "\x7b", "\x7d", "case", "do", "done", "elif", "else", "esac", "fi", "for", "if", "in",
    "then", "until", "while"]

namespace Lexeme

/-- The text of a plain word. -/
def plain? : Lexeme → Option Text
  | .word w => w.plain?
  | _ => none

/-- The lexeme is this mark. -/
def isMark (l : Lexeme) (t : Text) : Bool :=
  match l with
  | .mark u => u == t
  | _ => false

/-- How a fault names the lexeme. -/
def shown : Lexeme → Text
  | .word w =>
    match w.plain? with
    | some t => if reserved.contains t then '"' :: t ++ ['"'] else "word"
    | none => "word"
  | .mark t => if t = ['\n'] then "newline" else '"' :: t ++ ['"']
  | .redirect _ => "redirection"
  | .finish => "end of file"

end Lexeme

/-- The source after blanks, shielded line ends and a comment. -/
def skipBlanks : Nat → Source → Source
  | 0, s => s
  | n + 1, s =>
    match s.text with
    | ' ' :: _ | '\t' :: _ | '\x00' :: _ => skipBlanks n s.skip
    | '\\' :: '\n' :: _ => skipBlanks n s.skip.skip
    | '#' :: cs => s.drop (1 + (cs.takeWhile (· != '\n')).length)
    | _ => s

/-- The word that a redirection needs. -/
def readTarget (inner : Inner) (s : Source) : Attempt (Word × Source) := do
  let s := skipBlanks s.bound s
  let (w, after) ← readWord inner s
  if w.isEmpty then
    match s.text with
    | [] => s.fault (.unexpected Lexeme.finish.shown none)
    | '\n' :: _ => s.skip.fault (.unexpected (Lexeme.mark ['\n']).shown none)
    | '<' :: _ | '>' :: _ => s.fault (.unexpected "redirection" none)
    | c :: _ => s.fault (.unexpected (Lexeme.mark [c]).shown none)
  else return (w, after)

/-- Opens a file. -/
def readFile (inner : Inner) (channel : Nat) (how : Opening) (s : Source) :
    Attempt (Lexeme × Source) := do
  let (w, s) ← readTarget inner s
  return (.redirect (.file channel how w), s)

/-- Copies a channel, or closes one. -/
def readCopy (inner : Inner) (channel : Nat) (s : Source) : Attempt (Lexeme × Source) := do
  let (w, after) ← readTarget inner s
  match w.plain? with
  | some t => if t = ['-'] || t.all Char.isDigit then pure () else after.fault .badChannel
  | none => pure ()
  return (.redirect (.copy channel w), after)

/-- Wants a here-document. -/
def readHere (inner : Inner) (channel : Option Nat) (tabs : Bool) (s : Source) :
    Attempt (Lexeme × Source) := do
  let (w, s) ← readTarget inner s
  let (stop, quoted) := delimiter w
  let number := s.documents.length + s.wanted.length
  return (.redirect (.here (channel.getD 0) (inner.documents.getD number [])),
    { s with wanted := s.wanted ++ [⟨tabs, stop, quoted⟩] })

/-- A redirection of a channel, if the source begins with one. -/
def readRedirect (inner : Inner) (channel : Option Nat) (s : Source) :
    Option (Attempt (Lexeme × Source)) :=
  let low := channel.getD 0
  let high := channel.getD 1
  match s.text with
  | '<' :: '<' :: '-' :: _ => some (readHere inner channel true (s.drop 3))
  | '<' :: '<' :: _ => some (readHere inner channel false (s.drop 2))
  | '<' :: '&' :: _ => some (readCopy inner low (s.drop 2))
  | '<' :: '>' :: _ => some (readFile inner low .both (s.drop 2))
  | '<' :: _ => some (readFile inner low .read (s.drop 1))
  | '>' :: '>' :: _ => some (readFile inner high .append (s.drop 2))
  | '>' :: '&' :: _ => some (readCopy inner high (s.drop 2))
  | '>' :: '|' :: _ => some (readFile inner high .force (s.drop 2))
  | '>' :: _ => some (readFile inner high .write (s.drop 1))
  | _ => none

/-- The marks of two characters. -/
def longMarks : List Text := [";;", "&&", "||"]

/-- The next lexeme; the source that it was read from begins with it. -/
def readLexeme (inner : Inner) (s : Source) : Attempt (Lexeme × Source) :=
  match s.text with
  | [] => .ok (.finish, s)
  | c :: cs =>
    match readRedirect inner none s with
    | some r => r
    | none =>
      let two := (c :: cs).take 2
      if longMarks.contains two then .ok (.mark two, s.drop 2)
      else if c = '\n' then do
        let s ← endLine inner s
        return (.mark [c], s)
      else if Mode.bare.stops c cs then .ok (.mark [c], s.skip)
      else
        let ds := (c :: cs).takeWhile Char.isDigit
        let numbered :=
          if ds.length = 1 then readRedirect inner (some (Integer.ofDigits ds)) (s.drop 1)
          else none
        match numbered with
        | some r => r
        | none => do
          let (w, s) ← readWord inner s
          return (.word w, s)

end AliasShell.Script
