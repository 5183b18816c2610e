/-
Program files: what the bytes of an executable file say about running it.

Of a file that names its interpreter only the first 256 bytes are looked at, as if zeros followed a
shorter one.  A name that may be cut off there is none.
-/
import AliasShell.Files.Operations
import AliasShell.Text.Bytes

namespace AliasShell

/-- What a program file is. -/
inductive Image where
  /-- a tool of the machine -/
  | tool (name : Text)
  /-- a script for the interpreter that its first line names, with an argument -/
  | script (interpreter : Text) (arg : Option Text)
  deriving Repr, DecidableEq

namespace Image

/-- The bytes that a tool's file begins with; its name follows. -/
def toolMark : Bytes := 0x7f :: Text.bytes "ELF"

/-- The file of a tool. -/
def toolData (name : Text) : Bytes := toolMark ++ name.bytes

/-- The bytes that a script with an interpreter begins with. -/
def scriptMark : Bytes := Text.bytes "#!"

/-- The number of bytes that are looked at. -/
def headLength : Nat := 256

/-- A blank of the first line. -/
def isLineBlank (b : UInt8) : Bool := b == 32 || b == 9

/-- The bytes up to the first blank or zero, and those from there on. -/
def cutName (b : Bytes) : Bytes × Bytes :=
  let name := b.takeWhile fun x => !isLineBlank x && x != 0
  (name, b.drop name.length)

/-- The interpreter and its argument in a line, an argument ending at a zero. -/
def ofLine (line : Bytes) : Image :=
  let (name, rest) := cutName (line.dropWhile isLineBlank)
  let arg := (rest.dropWhile isLineBlank).takeWhile (· != 0)
  .script (Bytes.numbered name) (if arg.isEmpty then none else some (Bytes.numbered arg))

/-- The interpreter that the head of a file names after its mark. -/
def ofHead (head : Bytes) : Option Image :=
  let whole := head.takeWhile fun b => b != 10 && b != 0
  if head[whole.length]? = some 10 then
    let line := (whole.reverse.dropWhile isLineBlank).reverse
    if line.isEmpty then none else some (ofLine line)
  else
    let (_, rest) := cutName (head.dropWhile isLineBlank)
    if rest.isEmpty then none
    else some (ofLine (head.dropLast.reverse.dropWhile isLineBlank).reverse)

/-- What a file of these bytes is; `none` for one that cannot be run. -/
def ofData (data : Bytes) : Option Image :=
  if toolMark.isPrefixOf data then some (.tool (Bytes.numbered (data.drop toolMark.length)))
  else if scriptMark.isPrefixOf data then
    let head := (data ++ List.replicate headLength 0).take headLength
    ofHead (head.drop scriptMark.length)
  else none

/-- The image of the program file at a path. -/
def load (fs : Files) (path : Text) : Except SysError Image := do
  let loc ← fs.locateWhole path
  match fs.node? loc with
  | some (.file data t) =>
    if !t.runs then throw .denied
    match ofData data with
    | some image => return image
    | none => throw .notExecutable
  | some _ => throw .denied
  | none => throw .notFound

/-- How many scripts may have each other for interpreters. -/
def scriptLimit : Nat := 5

/-- How a program file is run: by which tool, what that is called, and its arguments. -/
structure Plan where
  tool : Text
  name : Text
  args : List Text
  deriving Repr, DecidableEq

/-- How the program file at a path is run that is called `name`.  A script is run by its
interpreter, called as the script calls it; the argument of the first line and the path of the
script come before the arguments of the script. -/
def resolve (fs : Files) : Nat → Text → Text → List Text → Except SysError Plan
  | scripts, path, name, args => do
    match ← load fs path with
    | .tool found => return ⟨found, name, args⟩
    | .script interpreter arg =>
      match scripts with
      | 0 => throw .tooManyLinks
      | left + 1 => resolve fs left interpreter interpreter (arg.toList ++ path :: args)

end Image

end AliasShell
