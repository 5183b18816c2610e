/-
What a variable may be called and may hold.
-/
import AliasShell.Text.Basic

namespace AliasShell

/-- Why a variable cannot be set or removed. -/
inductive EnvError where
  | invalidName (name : Text)
  | invalidValue (name : Text)
  deriving Repr, DecidableEq

/-- The wording of an error. -/
def EnvError.message : EnvError → Text
  | .invalidName name => "invalid variable name: '" ++ name ++ "'"
  | .invalidValue name => "invalid value for " ++ name ++ ": contains a NUL byte"

namespace Environment

/-- A name is not empty and holds neither `=` nor NUL. -/
def ValidName (name : Text) : Prop := name ≠ [] ∧ '=' ∉ name ∧ '\x00' ∉ name

instance (name : Text) : Decidable (ValidName name) := by unfold ValidName; infer_instance

/-- A value holds no NUL. -/
def ValidValue (value : Text) : Prop := '\x00' ∉ value

instance (value : Text) : Decidable (ValidValue value) := by unfold ValidValue; infer_instance

/-- `result` if the name can be one. -/
def checkingName {α : Type} (name : Text) (result : α) : Except EnvError α :=
  if ValidName name then .ok result else .error (.invalidName name)

/-- `result` if name and value can be such; the name is looked at first. -/
def checking {α : Type} (name value : Text) (result : α) : Except EnvError α :=
  if ValidName name then
    if ValidValue value then .ok result else .error (.invalidValue name)
  else .error (.invalidName name)

end Environment

end AliasShell
