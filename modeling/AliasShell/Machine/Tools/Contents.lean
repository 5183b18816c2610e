/-
Tools that write the contents of files, or parts and sizes of them.
-/
import AliasShell.Machine.Tools.Basic

namespace AliasShell.Tools

/-! ### All of them -/

/-- A byte that is shown as itself, or as what it is made of. -/
def visible (tabs others : Bool) (b : UInt8) : Bytes :=
  if b = 10 then [10]
  else if b = 9 then if tabs then Text.bytes "^I" else [9]
  else if !others then [b]
  else
    let low := if 128 ≤ b then b - 128 else b
    let shown := if low < 32 then [94, low + 64] else if low = 127 then [94, 63] else [low]
    if 128 ≤ b then 77 :: 45 :: shown else shown

/-- A line with its end shown. -/
def endShown (line : Bytes) : Bytes :=
  if line.getLast? = some 13 then line.dropLast ++ Text.bytes "^M$" else line ++ [36]

/-- A number in front of a line. -/
def numbered (n : Nat) (line : Bytes) : Bytes :=
  let ds := Integer.digits n
  Text.bytes (List.replicate (6 - ds.length) ' ' ++ ds ++ ['\t']) ++ line

/-- Lines with numbers in front, perhaps not of empty ones. -/
def numberLines (skipsEmpty : Bool) : Nat → List Bytes → List Bytes
  | _, [] => []
  | n, line :: lines =>
    if skipsEmpty && line.isEmpty then line :: numberLines skipsEmpty n lines
    else numbered n line :: numberLines skipsEmpty (n + 1) lines

/-- Lines of which no two empty ones follow each other. -/
def squeezeLines : List Bytes → List Bytes
  | [] :: [] :: lines => squeezeLines ([] :: lines)
  | line :: lines => line :: squeezeLines lines
  | [] => []

/-- Lines with ends, the last one only if the bytes that they come from have one there. -/
def rejoined (b : Bytes) (lines : List Bytes) : Bytes :=
  let joined := unlines lines
  if b.getLast? = some 10 then joined else joined.dropLast

/-- Bytes as they are asked for. -/
def catShown (a : Asked) (b : Bytes) : Bytes :=
  let numbers := a.hasAny "nb"
  let ends := a.hasAny "AeE"
  let tabs := a.hasAny "AtT"
  let others := a.hasAny "Aetv"
  let whole := b.getLast? = some 10
  let lines := if a.has 's' then squeezeLines b.lines else b.lines
  let lines := if tabs || others then lines.map (·.flatMap (visible tabs others)) else lines
  let lines := if ends then lines.mapIdx fun i line =>
      if whole || i + 1 < lines.length then endShown line else line
    else lines
  let lines := if numbers then numberLines (a.has 'b') 1 lines else lines
  rejoined b lines

/-- Contents as they are shown after each other, with complaints where they belong.  What was read
but not written yet follows the first `written` bytes of what is shown of `all`. -/
def catPieces (p : Process) (shown : Bytes → Bytes) (all : Bytes) (written : Nat) :
    List (Text × Except SysError Bytes) → Transcript
  | [] => [(.output, (shown all).drop written)]
  | (_, .ok b) :: more => catPieces p shown (all ++ b) written more
  | (name, .error e) :: more =>
    let whole := shown all
    (.output, whole.drop written) :: p.complaint (fileFault name e) ::
      catPieces p shown all whole.length more

/-- Contents one after another. -/
def cat : Tool :=
  taking
    { plain := "AbeEnstTuv"
      long := [("show-all", 'A'), ("number-nonblank", 'b'), ("show-ends", 'E'), ("number", 'n'),
        ("squeeze-blank", 's'), ("show-tabs", 'T'), ("show-nonprinting", 'v')] }
    1 fun p a =>
      if p.outlet = .closed then p.leave 1 [p.complaint "standard output: Bad file descriptor"]
      else
        let (found, rest) := contents p (orInput a.operands)
        let shown (b : Bytes) : Bytes := if a.hasAny "AbeEnstTv" then catShown a b else b
        conclude p rest (catPieces p shown [] 0 found)

/-- The lines of contents, the last one first. -/
def tac : Tool :=
  taking { plain := [] } 1 fun p a =>
    holdingBack <| overContents p a.operands
      (fun name e =>
        if e = .isDirectory then Quoting.ifNeeded name ++ ": read error: " ++ e.reason
        else "failed to open " ++ Quoting.always name ++ " for reading: " ++ e.reason)
      fun b =>
        let lines := b.lines
        let whole := unlines (lines.dropLast).reverse
        match lines.getLast? with
        | some last => (if b.getLast? = some 10 then last ++ [10] else last) ++ whole
        | none => []

/-- Each line backwards. -/
def rev : Tool :=
  taking { plain := [] } 1 fun p a =>
    holdingBack <| overContents p a.operands
      (fun name e => "cannot open " ++ name ++ ": " ++ e.reason)
      fun b => rejoined b (b.lines.map List.reverse)

/-! ### Parts -/

/-- How much of a content is meant, in lines or bytes. -/
inductive Amount where
  /-- this much from the near end -/
  | upTo (n : Nat)
  /-- all but this much at the far end -/
  | butFor (n : Nat)
  deriving Repr, DecidableEq

/-- The first lines or bytes. -/
def firstPart (inBytes : Bool) (amount : Amount) (b : Bytes) : Bytes :=
  if inBytes then
    match amount with
    | .upTo n => b.take n
    | .butFor n => b.take (b.length - n)
  else
    let lines := b.lines
    match amount with
    | .upTo n => if lines.length ≤ n then b else unlines (lines.take n)
    | .butFor n => if n = 0 then b else unlines (lines.take (lines.length - n))

/-- The last lines or bytes; `butFor n` leaves out those in front. -/
def lastPartOf (inBytes : Bool) (amount : Amount) (b : Bytes) : Bytes :=
  if inBytes then
    match amount with
    | .upTo n => b.drop (b.length - n)
    | .butFor n => b.drop n
  else
    let lines := b.lines
    match amount with
    | .upTo n => rejoined b (lines.drop (lines.length - n))
    | .butFor n => rejoined b (lines.drop n)

/-- An old way to give a number of lines or bytes: the number as an option. -/
def modernArgs (signs : Text) (args : List Text) : List Text :=
  match args with
  | (sign :: c :: cs) :: rest =>
    let ds := (c :: cs).takeWhile Char.isDigit
    let letters := (c :: cs).drop ds.length
    if !signs.contains sign || ds.isEmpty then args
    else
      let amount : Text := if sign = '+' then '+' :: ds else ds
      if letters.isEmpty ∨ letters = ['l'] then "-n".toList :: amount :: rest
      else if letters = ['c'] then "-c".toList :: amount :: rest
      else if letters = ['q'] ∨ letters = ['v'] then
        "-n".toList :: amount :: ('-' :: letters) :: rest
      else args
  | _ => args

/-- A title before contents. -/
def title (isFirst : Bool) (name : Text) : Bytes :=
  let name : Text := if name = ['-'] then "standard input" else name
  Text.bytes ((if isFirst then [] else ['\n']) ++ "==> ".toList ++ name ++ " <==\n")

/-- Parts of contents, with titles if there is more than one. -/
def parts (p : Process) (a : Asked) (part : Bytes → Bytes) : Aftermath :=
  let (found, rest) := contents p (orInput a.operands)
  let titled := !a.has 'q' && (a.has 'v' || 1 < found.length)
  let (transcript, _) := found.foldl
    (fun (done, isFirst) (name, content) =>
      let head : Transcript := if titled then [(.output, title isFirst name)] else []
      match content with
      | .ok b => (done ++ head ++ [(.output, part b)], false)
      | .error .isDirectory =>
        (done ++ head ++ [p.complaint
          ("error reading " ++ Quoting.always name ++ ": " ++ SysError.isDirectory.reason)], false)
      | .error e =>
        (done ++ [p.complaint
          ("cannot open " ++ Quoting.always name ++ " for reading: " ++ e.reason)], isFirst))
    (([] : Transcript), true)
  conclude p rest transcript

/-- The options of tools that write parts. -/
def partLetters : Letters :=
  { plain := "qvfFz", valued := "ncs",
    long := [("lines", 'n'), ("bytes", 'c'), ("quiet", 'q'), ("silent", 'q'), ("verbose", 'v'),
      ("zero-terminated", 'z'), ("follow", 'f')] }

/-- The number in an option, and the kind of what it counts. -/
def partAsked (a : Asked) : Bool × Text :=
  match a.options.reverse.find? fun o => o.1 == 'n' || o.1 == 'c' with
  | some ('c', t) => (true, t)
  | some (_, t) => (false, t)
  | none => (false, "10")

/-- The complaint about a number of lines or bytes. -/
def badNumber (inBytes : Bool) (t : Text) : Text :=
  "invalid number of " ++ (if inBytes then "bytes" else "lines") ++ ": " ++ Quoting.cited t

/-- The first parts of contents. -/
def head : Tool := fun p =>
  taking partLetters 1
    (fun p a =>
      let (inBytes, t) := partAsked a
      let amount := match t with
        | '-' :: ds => (size? ds).map Amount.butFor
        | '+' :: ds => (size? ds).map Amount.upTo
        | ds => (size? ds).map Amount.upTo
      match amount with
      | none => p.refuse 1 (badNumber inBytes t)
      | some amount =>
        let part := onZeros (a.has 'z') (firstPart inBytes amount)
        let p := match inBytes, amount with
          | true, .upTo n => { p with outlet := match p.outlet with
              | .free => .upTo n
              | outlet => outlet }
          | _, _ => p
        let done := parts p a part
        if !(orInput a.operands).contains ['-'] then done
        else
          let used := (part p.input).length
          match inBytes, amount with
          | true, .upTo _ => { done with input := p.input.drop used }
          | false, .upTo _ => { done with input := unused p used }
          | _, .butFor _ => { done with input := match p.position with
              | some _ => p.input.drop used
              | none => [] })
    { p with args := modernArgs "-" p.args }

/-- The last parts of contents. -/
def tail : Tool := fun p =>
  taking partLetters 1
    (fun p a =>
      let (inBytes, t) := partAsked a
      let amount := match t with
        | '+' :: ds => (size? ds).map fun n => Amount.butFor (n - 1)
        | '-' :: ds => (size? ds).map Amount.upTo
        | ds => (size? ds).map Amount.upTo
      match amount with
      | none => p.refuse 1 (badNumber inBytes t)
      | some amount => parts p a (onZeros (a.has 'z') (lastPartOf inBytes amount)))
    { p with args := if p.args.length ≤ 2 then modernArgs "-+" p.args else modernArgs "-" p.args }

/-! ### Sizes -/

/-- A byte between words. -/
def isWordBreak (b : UInt8) : Bool := b == 32 || (9 ≤ b && b ≤ 13)

/-- The number of words. -/
def wordCount (b : Bytes) : Nat :=
  (b.foldl
    (fun (n, inside) x =>
      if isWordBreak x then (n, false) else (if inside then n else n + 1, true))
    ((0 : Nat), false)).1

/-- The width of the widest line. -/
def widest (b : Bytes) : Nat :=
  let (most, now) := b.foldl
    (fun (most, now) x =>
      if x = 10 ∨ x = 13 ∨ x = 12 then (max most now, 0)
      else if x = 9 then (most, now + 8 - now % 8)
      else if 32 ≤ x ∧ x < 127 then (most, now + 1)
      else (most, now))
    ((0 : Nat), (0 : Nat))
  max most now

/-- The sizes of a content: its lines, words, characters and bytes, and its widest line. -/
def sizes (b : Bytes) : List Nat := [b.count 10, wordCount b, b.length, b.length, widest b]

/-- The sizes that are asked for. -/
def chosen (a : Asked) (ns : List Nat) : List Nat :=
  let asked := [a.has 'l', a.has 'w', a.has 'm', a.has 'c', a.has 'L']
  let asked := if asked.any id then asked else [true, true, false, true, false]
  (asked.zip ns).filterMap fun (isAsked, n) => if isAsked then some n else none

/-- Numbers of at least this width, with a name after them. -/
def sizeLine (width : Nat) (ns : List Nat) (name : Text) : Bytes :=
  let text (n : Nat) : Text :=
    let ds := Integer.digits n
    List.replicate (width - ds.length) ' ' ++ ds
  Text.bytes (Text.unwords (ns.map text) ++ (if name.isEmpty then [] else ' ' :: name) ++ ['\n'])

/-- Numbers taken together. -/
def together (ns : List Nat) : Nat := ns.foldl (fun n m => n + m) 0

/-- How wide the sizes are written: as wide as the size of all files, and wider where something is
no file. -/
def sizeWidth (p : Process) (a : Asked) (found : List (Text × Except SysError Bytes)) : Nat :=
  let ofFile (name : Text) (content : Except SysError Bytes) : Option Nat :=
    if isInput p.files name then p.position.map (· + p.input.length)
    else
      match content with
      | .ok b => if (p.files.locateWhole name).toOption.bind p.files.node? matches some (.device _)
        then none else some b.length
      | .error .isDirectory => none
      | .error _ => some 0
  let known := found.map fun (name, content) => ofFile name content
  let total := together (known.filterMap id)
  if found.length = 1 ∧ (chosen a [0, 0, 0, 0, 0]).length = 1 then 1
  else max (Integer.digits total).length (if known.any Option.isNone then 7 else 1)

/-- The sizes of contents, and of all together. -/
def wc : Tool :=
  taking
    { plain := "lwcmL", valued := "τ"
      long := [("lines", 'l'), ("words", 'w'), ("bytes", 'c'), ("chars", 'm'),
        ("max-line-length", 'L'), ("total", 'τ')] }
    1 fun p a =>
      let (found, rest) := contents p (orInput a.operands)
      let when_ := (a.value? 'τ').getD "auto"
      let width := if when_ = "only".toList then 1 else sizeWidth p a found
      let lines := found.flatMap fun (name, content) =>
        let shown := if a.operands.isEmpty then [] else Quoting.ifNeeded name
        match content with
        | .ok b => [(Channel.output, sizeLine width (chosen a (sizes b)) shown)]
        | .error .isDirectory =>
          [p.complaint (fileFault name .isDirectory),
            (.output, sizeLine width (chosen a [0, 0, 0, 0, 0]) shown)]
        | .error e => [p.complaint (fileFault name e)]
      let all := found.map fun (_, content) => sizes (content.toOption.getD [])
      let sums := [0, 1, 2, 3].map (fun i => together (all.map fun ns => ns.getD i 0)) ++
        [(all.map fun ns => ns.getD 4 0).foldl max 0]
      let showsTotal := if when_ = "auto".toList then 1 < found.length
        else when_ != "never".toList
      let last := if showsTotal then
          [(Channel.output, sizeLine width (chosen a sums)
            (if when_ = "only".toList then [] else "total".toList))]
        else []
      let lines := if when_ = "only".toList then lines.filter (·.1 == .errors) else lines
      conclude p rest (lines ++ last)

/-! ### Copies -/

/-- The input, written to files too. -/
def tee : Tool :=
  taking
    { plain := "aip", loose := "ω"
      long := [("append", 'a'), ("ignore-interrupts", 'i'), ("output-error", 'ω')] }
    1 fun p a =>
      let (fs, transcript) := a.operands.foldl
        (fun (fs, transcript) name =>
          if name = "/dev/stderr".toList then (fs, transcript ++ [(Channel.errors, p.input)])
          else if name = "/dev/stdout".toList then (fs, transcript ++ [(Channel.output, p.input)])
          else
            match Files.modify fs name fun old => (if a.has 'a' then old else []) ++ p.input with
            | .ok fs => (fs, transcript)
            | .error e => (fs, transcript ++ [p.complaint (fileFault name e)]))
        (p.files, [(Channel.output, p.input)])
      let failed := a.operands.any fun name => !(Files.modify p.files name id).isOk
      { p.leave (if failed then 1 else 0) transcript with input := [], files := fs }

end AliasShell.Tools
