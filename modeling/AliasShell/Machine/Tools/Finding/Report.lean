/-
Formats in which it is told what is found.

    format := ('%' flag* width? ('.' precision)? letter | '\' escape | byte)*

The letters for times are followed by one more, which says what is told of the time.
-/
import AliasShell.Machine.Rights
import AliasShell.Machine.Tools.Clock
import AliasShell.Machine.Tools.Finding.Basic

namespace AliasShell.Tools.Finding

/-- A piece of a format. -/
inductive Piece where
  | text (t : Text)
  | fact (flags : Text) (width : Nat) (precision : Option Nat) (letter part : Char)
  /-- the rest is left out -/
  | stop
  deriving Repr, DecidableEq

/-- A format, and the warnings about it. -/
structure Report where
  pieces : List Piece
  warnings : List Text := []
  deriving Repr, DecidableEq

/-- The report with a piece in front. -/
def Report.also (r : Report) (piece : Piece) : Report := { r with pieces := piece :: r.pieces }

/-- The report with a piece of text in front, which there is a warning about. -/
def Report.warned (r : Report) (t warning : Text) : Report :=
  { pieces := .text t :: r.pieces, warnings := ("warning: " ++ warning) :: r.warnings }

/-- The letters that tell something of a file. -/
def factLetters : Text := "abcDdfFgGhHiklmMnpPsStuUyY"

/-- The letters that tell something of a time, with one more behind them. -/
def timeLetters : Text := "ACBT"

/-- What a letter behind a backslash stands for. -/
def escapeLetters : List (Char × Char) :=
  [('a', '\x07'), ('b', '\x08'), ('f', '\x0c'), ('n', '\n'), ('r', '\x0d'), ('t', '\t'),
    ('v', '\x0b'), ('\\', '\\')]

/-- A letter between quotes, as warnings show it. -/
def shownAs (front : Char) (c : Char) : Text := '\x60' :: front :: c :: ['\'']

/-- The format that a text is; at most `n` pieces. -/
def Report.read : Nat → Text → Except Text Report
  | 0, _ => .ok ⟨[], []⟩
  | _, [] => .ok ⟨[], []⟩
  | n + 1, '%' :: cs => do
    let flags := cs.takeWhile "-+ #0".toList.contains
    let rest := cs.drop flags.length
    let width := rest.takeWhile Char.isDigit
    let rest := rest.drop width.length
    let (precision, rest) : Option Nat × Text := match rest with
      | '.' :: more =>
        let ds := more.takeWhile Char.isDigit
        (some (Integer.ofDigits ds), more.drop ds.length)
      | _ => (none, rest)
    let written (k : Nat) : Text := '%' :: cs.take (cs.length - rest.length + k)
    match rest with
    | [] => throw "error: % at end of format string".toList
    | '%' :: rest => return (← Report.read n rest).also (.text ['%'])
    | c :: rest =>
      if factLetters.contains c then
        return (← Report.read n rest).also
          (.fact flags (Integer.ofDigits width) precision c ' ')
      else if timeLetters.contains c then
        match rest with
        | part :: rest =>
          return (← Report.read n rest).also
            (.fact flags (Integer.ofDigits width) precision c part)
        | [] =>
          return Report.warned ⟨[], []⟩ (written 1)
            ("format directive ".toList ++ shownAs '%' c ++
              " should be followed by another character".toList)
      else if c = '\x7b' ∨ c = '[' ∨ c = '(' then
        throw ("error: the format directive ".toList ++ shownAs '%' c ++
          " is reserved for future use".toList)
      else
        return (← Report.read n rest).warned (written 1)
          ("unrecognized format directive ".toList ++ shownAs '%' c)
  | n + 1, '\\' :: cs => do
    match cs with
    | [] =>
      return Report.warned ⟨[], []⟩ ['\\']
        ("escape ".toList ++ ['\x60', '\\', '\''] ++ " followed by nothing at all".toList)
    | 'c' :: _ => return ⟨[.stop], []⟩
    | c :: rest =>
      let ds := (cs.take 3).takeWhile fun c => '0' ≤ c && c ≤ '7'
      if !ds.isEmpty then
        let value := ds.foldl (fun n c => 8 * n + (c.toNat - '0'.toNat)) 0
        return (← Report.read n (cs.drop ds.length)).also (.text [Char.ofNat (value % 256)])
      else
        match escapeLetters.lookup c with
        | some x => return (← Report.read n rest).also (.text [x])
        | none =>
          return (← Report.read n rest).warned ['\\', c]
            ("unrecognized escape ".toList ++ shownAs '\\' c)
  | n + 1, c :: cs => return (← Report.read n cs).also (.text [c])

/-! ### Telling -/

/-- Ten digits of the part of a second. -/
def fraction (m : Moment) : Text :=
  let ds := Integer.digits (m - Moment.ofSeconds m.seconds).toNat
  '.' :: List.replicate (6 - ds.length) '0' ++ ds ++ "0000".toList

/-- What a letter asks for of a moment. -/
def timeText (zone : Dates.Zone) (m : Moment) (part : Char) : Text :=
  let told (format : Text) : Text := (Dates.Stamp.ofMoment zone m).text format
  match part with
  | '@' => Integer.text m.seconds ++ fraction m
  | '+' => told "%Y-%m-%d+%H:%M:%S".toList ++ fraction m
  | 'S' => told "%S".toList ++ fraction m
  | 'T' => told "%H:%M:%S".toList ++ fraction m
  | 'X' => told "%H:%M:%S".toList ++ fraction m
  | c => told ['%', c]

/-- A moment as it is told where nothing else is asked for. -/
def plainTime (zone : Dates.Zone) (m : Moment) : Text :=
  let told (format : String) : Text := (Dates.Stamp.ofMoment zone m).text format.toList
  told "%a %b %e %H:%M:%S" ++ fraction m ++ told " %Y"

/-- The letter for the kind of a node. -/
def kindOf (node : Node) : Char :=
  if Files.kindLetter node = '-' then 'f' else Files.kindLetter node

/-- When a file was last looked into, or changed in what is known of it, or in what it holds.  What
is known of it changes last, and it is there since the tool began. -/
def momentOf (fs : Files) (v : Visit) (letter : Char) : Moment :=
  if letter = 'C' ∨ letter = 'c' ∨ letter = 'B' then fs.now else v.node.modified

/-- What a letter asks for of a file. -/
def factText (zone : Dates.Zone) (fs : Files) (v : Visit) (letter part : Char) : Text :=
  let node := v.node
  match letter with
  | 'p' => v.path
  | 'f' => v.ending
  | 'h' => v.folder
  | 'H' => v.start
  | 'P' => v.below
  | 'd' => Integer.digits v.depth
  | 'y' => [kindOf node]
  | 'Y' =>
    match node, v.other fs with
    | .link .., some other => [kindOf other]
    | .link .., none => ['N']
    | _, _ => [kindOf node]
  | 'l' =>
    match node with
    | .link target _ => target
    | _ => []
  | 'm' => Nat.toDigits 8 node.mode
  | 'M' => Files.kindLetter node :: Rights.text node.mode
  | 'n' => Integer.digits (fs.linkCount v.loc node)
  | 'i' => Integer.digits (fs.serialNumber v.loc node)
  | 's' => Integer.digits (Files.sizeOf node)
  | 'b' => Integer.digits (Files.blocksOf node)
  | 'k' => Integer.digits ((Files.blocksOf node + 1) / 2)
  | 'S' => ['1']
  | 'u' => "root"
  | 'g' => "root"
  | 'U' => ['0']
  | 'G' => ['0']
  | 'D' => "65024"
  | 'F' => "ext4"
  | 'a' => plainTime zone (momentOf fs v 'A')
  | 'c' => plainTime zone (momentOf fs v 'C')
  | 't' => plainTime zone node.modified
  | c => if timeLetters.contains c then timeText zone (momentOf fs v c) part else []

/-- A text in its place. -/
def fitted (flags : Text) (width : Nat) (precision : Option Nat) (letter : Char) (t : Text) :
    Text :=
  let isNumber := letter = 'd' ∨ letter = 'm'
  let t := match precision with
    | some k => if isNumber then List.replicate (k - t.length) '0' ++ t else t.take k
    | none => t
  let t := if letter = 'd' && flags.contains '+' then '+' :: t
    else if letter = 'd' && flags.contains ' ' then ' ' :: t
    else if letter = 'm' && flags.contains '#' then '0' :: t
    else t
  let missing := width - t.length
  if flags.contains '-' then t ++ List.replicate missing ' '
  else if isNumber && flags.contains '0' then List.replicate missing '0' ++ t
  else List.replicate missing ' ' ++ t

/-- What a format tells of a file. -/
def tell (zone : Dates.Zone) (fs : Files) (v : Visit) : List Piece → Text
  | [] => []
  | .text t :: ps => t ++ tell zone fs v ps
  | .fact flags width precision letter part :: ps =>
    fitted flags width precision letter (factText zone fs v letter part) ++ tell zone fs v ps
  | .stop :: _ => []

/-- The format asks for more than the name and the kind of a file. -/
def looksAt (ps : List Piece) : Bool :=
  ps.any fun
    | .fact _ _ _ letter _ => !"dfhHpPyl".toList.contains letter
    | _ => false

/-- All that is known of a file, on a line. -/
def details (zone : Dates.Zone) (fs : Files) (v : Visit) : Text :=
  let right (width : Nat) (t : Text) : Text := List.replicate (width - t.length) ' ' ++ t
  let left (width : Nat) (t : Text) : Text := t ++ List.replicate (width - t.length) ' '
  let known (letter : Char) : Text := factText zone fs v letter ' '
  let age := fs.now - v.node.modified
  let isRecent := age ≤ Moment.ofSeconds 15778476 ∧ Moment.ofSeconds (-3600) ≤ age
  let format := if isRecent then "%b %e %H:%M" else "%b %e  %Y"
  let target : Text := match v.node with
    | .link target _ => " -> ".toList ++ target
    | _ => []
  Text.unwords [right 9 (known 'i'), right 6 (known 'k'), known 'M', right 3 (known 'n'),
    left 8 (known 'u'), left 8 (known 'g'), right 8 (known 's'),
    (Dates.Stamp.ofMoment zone v.node.modified).text format.toList, v.path] ++ target ++ ['\n']

end AliasShell.Tools.Finding
