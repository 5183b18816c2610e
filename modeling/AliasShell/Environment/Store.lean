/-
The variables of a session, of either kind.
-/
import AliasShell.Environment.Entries
import AliasShell.Environment.Sorted

namespace AliasShell

/-- A session's variables: its own, or those of the process. -/
inductive Environment where
  | sorted (e : SortedEnv)
  | process (e : ProcessEnv)
  deriving Repr, DecidableEq

namespace Environment

/-- The value of `name`, if it is text. -/
def get? : Environment → Text → Option Text
  | .sorted e, name => e.get? name
  | .process e, name => e.get? name

/-- The environment with `value` under `name`. -/
def set : Environment → Text → Text → Except EnvError Environment
  | .sorted e, name, value => (e.set name value).map .sorted
  | .process e, name, value => (e.set name value).map .process

/-- The environment without `name`. -/
def unset : Environment → Text → Except EnvError Environment
  | .sorted e, name => (e.unset name).map .sorted
  | .process e, name => (e.unset name).map .process

/-- The names and values that are text, sorted by name. -/
def list : Environment → List (Text × Text)
  | .sorted e => e.vars
  | .process e => e.list

/-- What a program inherits: every name and value, sorted by name. -/
def snapshot : Environment → List (Bytes × Bytes)
  | .sorted e => e.vars.map fun v => (v.1.encode, v.2.encode)
  | .process e => e.snapshot

end Environment

end AliasShell
