/-
Tools for columns: one that takes them out of lines and one that puts lines beside each other.
-/
import AliasShell.Machine.Tools.Basic

namespace AliasShell.Tools

namespace Columns

/-! ### Lists of positions -/

/-- Positions from one on, up to another if there is one; both are counted from 1. -/
structure Span where
  first : Nat
  last : Option Nat
  deriving Repr, DecidableEq

/-- A position is in the span. -/
def Span.has (s : Span) (n : Nat) : Bool := s.first ≤ n && s.last.all (n ≤ ·)

/-- What is wrong with a list of positions. -/
inductive Fault where
  | zero
  | decreasing
  | twoDashes
  | loneDash
  | unknown (rest : Text)
  | tooLarge (digits : Text)
  deriving Repr, DecidableEq

/-- The wording of a fault in a list of fields, or else of bytes. -/
def Fault.message (inFields : Bool) : Fault → Text
  | .zero =>
    if inFields then "fields are numbered from 1"
    else "byte/character positions are numbered from 1"
  | .decreasing => "invalid decreasing range"
  | .twoDashes => if inFields then "invalid field range" else "invalid byte or character range"
  | .loneDash => "invalid range with no endpoint: -"
  | .unknown rest =>
    (if inFields then "invalid field value " else "invalid byte/character position ") ++
      Quoting.cited rest
  | .tooLarge ds =>
    (if inFields then "field number " else "byte/character offset ") ++ Quoting.cited ds ++
      " is too large"

/-- The number at the front of a text, if there is one, and what follows it. -/
def number? (t : Text) : Except Fault (Option Nat × Text) :=
  let ds := t.takeWhile Char.isDigit
  let n := Integer.ofDigits ds
  if ds.isEmpty then .ok (none, t)
  else if Nat.pow 2 64 - 1 ≤ n then .error (.tooLarge ds)
  else .ok (some n, t.drop ds.length)

/-- The span at the front of a text, and what follows it. -/
def Span.read (t : Text) : Except Fault (Span × Text) := do
  let isEnd : Text → Bool
    | [] => true
    | c :: _ => c == ',' || c == ' ' || c == '\t'
  let (first, rest) ← number? t
  match rest with
  | '-' :: rest =>
    if first = some 0 then throw .zero
    let (last, rest) ← number? rest
    if rest.head? = some '-' then throw .twoDashes
    if !isEnd rest then throw (.unknown rest)
    match first, last with
    | none, none => throw .loneDash
    | first, some last =>
      if last < first.getD 1 then throw .decreasing
      return (⟨first.getD 1, some last⟩, rest)
    | some first, none => return (⟨first, none⟩, rest)
  | rest =>
    if !isEnd rest then throw (.unknown rest)
    match first with
    | none | some 0 => throw .zero
    | some n => return (⟨n, some n⟩, rest)

/-- The spans of a list; at most `n`. -/
def readSpans : Nat → Text → Except Fault (List Span)
  | 0, _ => .ok []
  | n + 1, t => do
    let (span, rest) ← Span.read t
    match rest with
    | [] => return [span]
    | _ :: rest => return span :: (← readSpans n rest)

/-- Spans in order, those that have positions in common as one. -/
def merged (spans : List Span) : List Span :=
  let ordered := spans.mergeSort fun a b => a.first ≤ b.first
  (ordered.foldl
    (fun done s =>
      match done with
      | [] => [s]
      | d :: ds =>
        if d.last.all (s.first ≤ ·) then
          let last := match d.last, s.last with
            | some a, some b => some (max a b)
            | _, _ => none
          { d with last } :: ds
        else s :: d :: ds)
    []).reverse

/-- The positions that are in no span; the spans are in order and `n` is the first to look at. -/
def gaps (n : Nat) : List Span → List Span
  | [] => [⟨n, none⟩]
  | s :: ss =>
    let before := if n < s.first then [Span.mk n (some (s.first - 1))] else []
    before ++ match s.last with
      | some last => gaps (last + 1) ss
      | none => []

/-! ### Taking columns out -/

/-- What is taken out of lines. -/
structure Cut where
  spans : List Span
  /-- what stands between fields, if those are meant -/
  delimiter : Option UInt8
  /-- what is written between the things taken out -/
  between : Option Bytes
  /-- Lines without a delimiter are left out. -/
  onlyDelimited : Bool
  deriving Repr

/-- Bytes cut at each one that is a mark. -/
def cutAt (mark : UInt8) : Bytes → List Bytes
  | [] => [[]]
  | b :: bs =>
    match cutAt mark bs with
    | f :: fs => if b = mark then [] :: f :: fs else (b :: f) :: fs
    | [] => [[b]]

/-- The things whose positions are in a span. -/
def chosenBy {α : Type} (spans : List Span) (xs : List α) : List α :=
  (xs.zipIdx 1).filterMap fun (x, n) => if spans.any (·.has n) then some x else none

/-- The bytes of a line whose positions are in a span, with something between spans. -/
def Cut.bytes (c : Cut) (line : Bytes) : Bytes :=
  match c.between with
  | none => chosenBy c.spans line
  | some between =>
    let pieces := c.spans.map fun s => chosenBy [s] line
    between.intercalate (pieces.filter fun piece => !piece.isEmpty)

/-- The fields of a line whose positions are in a span, if it has any. -/
def Cut.fields (c : Cut) (delimiter : UInt8) (line : Bytes) : List Bytes :=
  if line.contains delimiter then
    [(c.between.getD [delimiter]).intercalate (chosenBy c.spans (cutAt delimiter line))]
  else if c.onlyDelimited then []
  else [line]

/-- What is written for a content.  Where the delimiter ends lines too, all lines are fields of
one. -/
def Cut.output (c : Cut) (zeros : Bool) (b : Bytes) : Bytes :=
  let last := lineEnd zeros
  let lines := linesOf zeros b
  let found : List Bytes := match c.delimiter with
    | none => lines.map c.bytes
    | some d =>
      if d != last then lines.flatMap (c.fields d)
      else if lines.isEmpty then []
      else [(c.between.getD [d]).intercalate (chosenBy c.spans lines)]
  found.flatMap (· ++ [last])

/-- The letters that are known. -/
def cutLetters : Letters :=
  { plain := "snzκ", valued := "dfbcω"
    long := [("bytes", 'b'), ("characters", 'c'), ("fields", 'f'), ("delimiter", 'd'),
      ("only-delimited", 's'), ("output-delimiter", 'ω'), ("complement", 'κ'),
      ("zero-terminated", 'z')]
    usage := "OPTION... [FILE]..." }

/-- What is to be taken out, as it is asked for. -/
def Cut.ofAsked (a : Asked) : Except Text Cut := do
  let (kind, t) ← match a.options.filter fun o => "fbc".toList.contains o.1 with
    | [] => throw "you must specify a list of bytes, characters, or fields".toList
    | [o] => pure o
    | _ => throw "only one list may be specified".toList
  if (a.values 'd').any fun t => 1 < t.length then
    throw "the delimiter must be a single character".toList
  if kind != 'f' ∧ a.has 'd' then
    throw "an input delimiter may be specified only when operating on fields".toList
  if kind != 'f' ∧ a.has 's' then
    throw ("suppressing non-delimited lines makes sense\n".toList ++
      "\tonly when operating on fields".toList)
  let spans ← (readSpans (t.length + 1) t).mapError (Fault.message (kind == 'f'))
  let spans := merged spans
  let delimiter := (Text.bytes ((a.value? 'd').getD ['\t'])).headD 0
  let between := (a.value? 'ω').map fun t => if t.isEmpty then [0] else Text.bytes t
  return { spans := if a.has 'κ' then gaps 1 spans else spans
           delimiter := if kind = 'f' then some delimiter else none
           between, onlyDelimited := a.has 's' }

/-! ### Lines beside each other -/

/-- What stands between lines, in turn; nothing may be one of it. -/
def delimiters : Text → Except Unit (List Bytes)
  | [] => .ok []
  | ['\\'] => .error ()
  | '\\' :: c :: cs =>
    let b : Bytes := match c with
      | '0' => []
      | 'b' => [8]
      | 'f' => [12]
      | 'n' => [10]
      | 'r' => [13]
      | 't' => [9]
      | 'v' => [11]
      | c => [Text.byteOf c]
    (delimiters cs).map (b :: ·)
  | c :: cs => (delimiters cs).map ([Text.byteOf c] :: ·)

/-- Things with delimiters between them, which begin again when they are used up. -/
def joined (marks : Array Bytes) (xs : List Bytes) : Bytes :=
  (xs.zipIdx).flatMap fun (x, i) =>
    if i = 0 then x else (marks[(i - 1) % marks.size]?).getD [] ++ x

/-- Where lines come from: the input, which others may take lines of too, or lines of their own. -/
inductive Source where
  | input
  | lines (rest : List Bytes)

/-- The next line of each source. -/
def nextRow (shared : List Bytes) : List Source → List (Option Bytes) × List Bytes × List Source
  | [] => ([], shared, [])
  | .input :: more =>
    let (row, rest, sources) := nextRow (shared.drop 1) more
    (shared.head? :: row, rest, .input :: sources)
  | .lines ls :: more =>
    let (row, rest, sources) := nextRow shared more
    (ls.head? :: row, rest, .lines (ls.drop 1) :: sources)

/-- The rows of lines beside each other; at most `n`. -/
def rows (marks : Array Bytes) (last : UInt8) : Nat → List Bytes → List Source → Bytes
  | 0, _, _ => []
  | n + 1, shared, sources =>
    let (row, shared, sources) := nextRow shared sources
    if row.all Option.isNone then []
    else joined marks (row.map (·.getD [])) ++ last :: rows marks last n shared sources

end Columns

open Columns in
/-- Columns of lines. -/
def cut : Tool :=
  taking cutLetters 1 fun p a =>
    match Cut.ofAsked a with
    | .error t => misused p 1 t
    | .ok c => overContents p a.operands fileFault (c.output (a.has 'z'))

open Columns in
/-- Lines beside each other, or those of each content as one. -/
def paste : Tool :=
  taking
    { plain := "sz", valued := "d"
      long := [("serial", 's'), ("delimiters", 'd'), ("zero-terminated", 'z')] }
    1 fun p a =>
      let zeros := a.has 'z'
      let t := (a.value? 'd').getD ['\t']
      match delimiters (if t.isEmpty then "\\0" else t) with
      | .error () =>
        p.refuse 1 ("delimiter list ends with an unescaped backslash: " ++ t)
      | .ok marks =>
        let marks := marks.toArray
        let names := orInput a.operands
        let (found, rest) := contents p names
        if a.has 's' then
          conclude p rest (found.flatMap fun (name, content) =>
            match content with
            | .ok b => [(Channel.output, joined marks (linesOf zeros b) ++ [lineEnd zeros])]
            | .error .isDirectory =>
              [(.output, [lineEnd zeros]), p.complaint (fileFault name .isDirectory)]
            | .error e => [p.complaint (fileFault name e)])
        else
          let missing := found.findSome? fun (name, content) =>
            match content with
            | .ok _ | .error .isDirectory => none
            | .error e => some (fileFault name e)
          match missing with
          | some t => p.refuse 1 t
          | none =>
            let faults := found.filterMap fun (name, content) =>
              match content with
              | .ok _ => none
              | .error e => some (p.complaint (fileFault name e))
            let sources := found.map fun (name, content) =>
              if name = ['-'] then Source.input
              else Source.lines (linesOf zeros (content.toOption.getD []))
            let shared := if names.contains ['-'] then linesOf zeros p.input else []
            let most := found.foldl (fun n (_, c) => n + (c.toOption.getD []).length) 1
            let b := rows marks (lineEnd zeros) most shared sources
            conclude p rest (faults ++ [(.output, b)])

end AliasShell.Tools
