/-
The environment of a process: a list of texts `NAME=VALUE`, as the system keeps it.

Entries are bytes, which need not be text.  A name is looked up by the first entry that begins with
the name and `=`; setting replaces that entry or appends one.  Taken apart into name and value, an
entry is cut at its first `=`, one at the very start not counted.
-/
import AliasShell.Environment.Basic
import AliasShell.Text.Bytes

namespace AliasShell

/-- The entries of a process, in order. -/
structure ProcessEnv where
  entries : List Bytes
  deriving Repr, DecidableEq

namespace ProcessEnv

/-- The byte between name and value. -/
def equals : UInt8 := 61

/-- The entry for a name and a value. -/
def entry (name value : Bytes) : Bytes := name ++ equals :: value

/-- The entry begins with the name and `=`. -/
def isFor (name : Bytes) (e : Bytes) : Bool := (name ++ [equals]).isPrefixOf e

/-- The two sides of the first `=`. -/
def cutEquals : Bytes → Option (Bytes × Bytes)
  | [] => none
  | b :: bs => if b = equals then some ([], bs) else (cutEquals bs).map fun (n, v) => (b :: n, v)

/-- Name and value of an entry. -/
def split? : Bytes → Option (Bytes × Bytes)
  | [] => none
  | b :: bs => (cutEquals bs).map fun (n, v) => (b :: n, v)

/-- `new` in place of the first entry for `name`, or at the end. -/
def replace (name new : Bytes) : List Bytes → List Bytes
  | [] => [new]
  | e :: es => if isFor name e then new :: es else e :: replace name new es

/-- The environment with `value` under `name`, unchecked. -/
def put (e : ProcessEnv) (name value : Bytes) : ProcessEnv :=
  ⟨replace name (entry name value) e.entries⟩

/-- The environment that holds exactly these. -/
def ofList (vars : List (Bytes × Bytes)) : ProcessEnv :=
  vars.foldl (fun e v => e.put v.1 v.2) ⟨[]⟩

/-- What follows the name and `=` in the first entry for it. -/
def find? (e : ProcessEnv) (name : Bytes) : Option Bytes :=
  (e.entries.find? (isFor name)).map (·.drop (name.length + 1))

/-- The value of `name`, if it is text. -/
def get? (e : ProcessEnv) (name : Text) : Option Text :=
  if name = [] ∨ '\x00' ∈ name then none else (e.find? name.encode).bind Bytes.decode?

/-- The environment with `value` under `name`. -/
def set (e : ProcessEnv) (name value : Text) : Except EnvError ProcessEnv :=
  Environment.checking name value (e.put name.encode value.encode)

/-- The environment without `name`. -/
def unset (e : ProcessEnv) (name : Text) : Except EnvError ProcessEnv :=
  Environment.checkingName name ⟨e.entries.filter fun x => !isFor name.encode x⟩

/-- Orders pairs by their first part, then by their second. -/
def pairLe {α : Type} [DecidableEq α] (le : α → α → Bool) (a b : α × α) : Bool :=
  if a.1 = b.1 then le a.2 b.2 else le a.1 b.1

/-- Every name and value, sorted. -/
def snapshot (e : ProcessEnv) : List (Bytes × Bytes) :=
  (e.entries.filterMap split?).mergeSort (pairLe Bytes.le)

/-- Name and value as text, if both are. -/
def asText? (v : Bytes × Bytes) : Option (Text × Text) := do
  let name ← Bytes.decode? v.1
  let value ← Bytes.decode? v.2
  return (name, value)

/-- The names and values that are text, sorted. -/
def list (e : ProcessEnv) : List (Text × Text) :=
  ((e.entries.filterMap split?).filterMap asText?).mergeSort (pairLe Text.le)

end ProcessEnv

end AliasShell
