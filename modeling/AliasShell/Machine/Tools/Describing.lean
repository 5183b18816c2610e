/-
The tool that tells all that is known of a file, in a format of its own or one that is asked for.
-/
import AliasShell.Machine.Files.Facts
import AliasShell.Machine.Quoting
import AliasShell.Machine.Rights
import AliasShell.Machine.Tools.Clock
import AliasShell.Machine.Tools.Progress

namespace AliasShell.Tools

namespace Describing

/-- A piece of a description. -/
structure Spot where
  flags : Text
  width : Nat
  precision : Option Nat
  letter : Char
  deriving Repr, DecidableEq

/-- A text in its place; numbers may be filled with zeros. -/
def Spot.fit (f : Spot) (isNumber : Bool) (t : Text) : Text :=
  let missing := f.width - t.length
  if f.flags.contains '-' then t ++ List.replicate missing ' '
  else List.replicate missing (if isNumber && f.flags.contains '0' then '0' else ' ') ++ t

/-- A moment in seconds, with so many digits behind the point. -/
def secondsText (precision : Option Nat) (m : Moment) : Text :=
  let whole := Integer.text m.seconds
  match precision with
  | none => whole
  | some 0 => whole
  | some k =>
    let micros := (m - Moment.ofSeconds m.seconds).toNat
    let ds := Integer.digits micros
    let ds := List.replicate (6 - ds.length) '0' ++ ds ++ List.replicate (k - 6) '0'
    whole ++ '.' :: ds.take k

/-- A number in base 16. -/
def hex (n : Nat) : Text := Nat.toDigits 16 n

/-- What is known of a node, by the letter that asks for it. -/
def fact (p : Process) (path : Text) (loc : Location) (node : Node) (f : Spot) : Text :=
  let fs := p.files
  let number (n : Nat) : Text := f.fit true (Integer.digits n)
  let moment (m : Moment) : Text :=
    f.fit false ((Dates.Stamp.ofMoment (zoneOf p) m).text "%Y-%m-%d %H:%M:%S.%N %z".toList)
  match f.letter with
  | 'n' => f.fit false path
  | 'N' =>
    match node with
    | .link target _ => f.fit false (Quoting.always path ++ " -> " ++ Quoting.always target)
    | _ => f.fit false (Quoting.always path)
  | 's' => number (Files.sizeOf node)
  | 'a' => f.fit true ((if f.flags.contains '#' then ['0'] else []) ++ Nat.toDigits 8 node.mode)
  | 'A' => f.fit false (Files.kindLetter node :: Rights.text node.mode)
  | 'f' => f.fit true (hex (Files.fullMode node))
  | 'F' => f.fit false (kindName node)
  | 'h' => number (fs.linkCount loc node)
  | 'i' => number (fs.serialNumber loc node)
  | 'u' => number 0
  | 'g' => number 0
  | 'U' => f.fit false "root"
  | 'G' => f.fit false "root"
  | 'y' => moment node.modified
  | 'x' => moment node.modified
  | 'z' => moment node.modified
  | 'w' => f.fit false ['-']
  | 'Y' => f.fit true (secondsText f.precision node.modified)
  | 'X' => f.fit true (secondsText f.precision node.modified)
  | 'Z' => f.fit true (secondsText f.precision node.modified)
  | 'W' => number 0
  | 'b' => number (Files.blocksOf node)
  | 'B' => number 512
  | 'o' => number 4096
  | 'm' => f.fit false ['/']
  | 't' => number 0
  | 'T' => number 0
  | 'd' => number 65024
  | 'D' => f.fit true "fe00"
  | _ => f.fit false ['?']

/-- A description in a format, and the complaints about its backslashes; at most `n` characters. -/
def describe (escapes : Bool) (known : Spot → Text) : Nat → Text → Text × List Text
  | 0, _ => ([], [])
  | _, [] => ([], [])
  | n + 1, '%' :: cs =>
    let flags := cs.takeWhile "'-+ #0I".toList.contains
    let rest := cs.drop flags.length
    let width := rest.takeWhile Char.isDigit
    let rest := rest.drop width.length
    let (precision, rest) : Option Nat × Text := match rest with
      | '.' :: more =>
        let ds := more.takeWhile Char.isDigit
        (some (if ds.isEmpty then 9 else Integer.ofDigits ds), more.drop ds.length)
      | _ => (none, rest)
    match rest with
    | [] => ('%' :: cs, [])
    | letter :: rest =>
      let shown := if letter = '%' then ['%']
        else known ⟨flags, Integer.ofDigits width, precision, letter⟩
      let (t, faults) := describe escapes known n rest
      (shown ++ t, faults)
  | n + 1, '\\' :: cs =>
    if !escapes then
      let (t, faults) := describe escapes known n cs
      ('\\' :: t, faults)
    else
      match EscapeStyle.after ⟨true, false, true⟩ cs, cs with
      | some (b, k), _ =>
        let (t, faults) := describe escapes known n (cs.drop k)
        (Bytes.numbered [b] ++ t, faults)
      | none, c :: cs =>
        let (t, faults) := describe escapes known n cs
        (c :: t, ("warning: unrecognized escape '\\" ++ c :: ['\'']) :: faults)
      | none, [] => (['\\'], ["warning: backslash at end of format".toList])
  | n + 1, c :: cs =>
    let (t, faults) := describe escapes known n cs
    (c :: t, faults)

/-- The formats of the lines that describe a node if nothing else is asked for, behind its name. -/
def usualLines : List String :=
  ["  Size: %-10s\tBlocks: %-10b IO Block: %-6o %F", "Device: 254,0\tInode: %-11i Links: %h",
    "Access: (%04a/%10A)  Uid: (%5u/%8U)   Gid: (%5g/%8G)", "Access: %x", "Modify: %y",
    "Change: %z", " Birth: %w"]

/-- The format of the line that is short. -/
def shortLine : String := "%n %s %b %f %u %g %D %i %h %t %T %X %Y %Z %W %o"

/-- What is said of a node, and the complaints about the format. -/
def said (p : Process) (a : Asked) (path : Text) (loc : Location) (node : Node) :
    Text × List Text :=
  let told (escapes : Bool) (format : Text) : Text × List Text :=
    describe escapes (fact p path loc node) (format.length + 1) format
  match (a.options.reverse.find? fun o => o.1 == 'c' || o.1 == 'π') with
  | some ('c', format) =>
    let (t, faults) := told false format
    (t ++ ['\n'], faults)
  | some (_, format) => told true format
  | none =>
    if a.has 't' then ((told false shortLine.toList).1 ++ ['\n'], [])
    else
      let name := match node with
        | .link target _ => Quoting.ifNeeded path ++ " -> " ++ Quoting.ifNeeded target
        | _ => Quoting.ifNeeded path
      let lines := usualLines.map fun line => (told false line.toList).1
      ((("  File: ".toList ++ name) :: lines).flatMap (· ++ ['\n']), [])

end Describing

/-- Tells what is known of files. -/
def stat : Tool :=
  taking
    { plain := "Lft", valued := "cπκ"
      long := [("dereference", 'L'), ("file-system", 'f'), ("format", 'c'), ("printf", 'π'),
        ("terse", 't'), ("cached", 'κ')]
      usage := "[OPTION]... FILE..." }
    1 fun p a =>
      if a.operands.isEmpty then misused p 1 "missing operand"
      else
        let step (w : Progress) (path : Text) : Progress :=
          match (if a.has 'L' then targetAt w.files path else nodeAt w.files path) with
          | .error e =>
            w.complain p ("cannot statx " ++ Quoting.always path ++ ": " ++ e.reason)
          | .ok (loc, node) =>
            let (t, faults) := Describing.said p a path loc node
            let w := faults.foldl (fun w t => w.warn p t) w
            { w with transcript := w.transcript ++ [(.output, Text.bytes t)] }
        (a.operands.foldl step (.start p)).done p

end AliasShell.Tools
