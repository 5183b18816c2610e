/-
Where the startup file and the history file are.
-/
import AliasShell.Path

namespace AliasShell

/-- The files a shell starts with; `none` for one it does without. -/
structure Locations where
  startup : Option Text
  history : Option Text
  /-- The startup file was asked for by name, so it has to exist. -/
  explicit : Bool
  deriving Repr, DecidableEq

namespace Locations

/-- The startup file in the home directory. -/
def startupName : Text := ".dlshrc"

/-- The history file in the home directory. -/
def historyName : Text := ".dlsh_history"

/-- The files in the home directory, if there is one. -/
def ofHome (home : Option Text) : Locations where
  startup := home.map (Path.join · startupName)
  history := home.map (Path.join · historyName)
  explicit := false

/-- Another startup file, if one is given. -/
def withStartup (l : Locations) : Option Text → Locations
  | some p => { l with startup := some p, explicit := true }
  | none => l

/-- No startup file. -/
def withoutStartup (l : Locations) : Locations := { l with startup := none, explicit := false }

/-- Another history file, if one is given. -/
def withHistory (l : Locations) : Option Text → Locations
  | some p => { l with history := some p }
  | none => l

end Locations

end AliasShell
