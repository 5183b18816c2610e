/-
The builtin verbs.
-/
import AliasShell.Builtin.Aliases
import AliasShell.Builtin.Directory
import AliasShell.Builtin.Variables

namespace AliasShell

namespace Builtin

/-- Clears the screen and puts the cursor into its first corner. -/
def clearScreen : Action := fun _ s => s.print "\x1b[2J\x1b[H"

/-- The code that an argument asks for: a 32-bit integer; anything else counts as 0. -/
def exitCode (args : List Text) : Int :=
  match args.head?.bind Integer.ofText? with
  | some code => if -2147483648 ≤ code ∧ code ≤ 2147483647 then code else 0
  | none => 0

/-- Ends the session. -/
def exit : Action := fun args s => (s, .ok (.exit (exitCode args)))

/-- Every verb with what it does, in the order of the verbs. -/
def table : List (Text × Action) :=
  [("alias", AliasVerb.run), ("cd", Cd.run), ("clear", clearScreen), ("clr", clearScreen),
    ("exit", exit), ("ls", Ls.run), ("print", Print.run), ("var", Var.run)]

/-- What a verb does, if it is built in. -/
def action? (verb : Text) : Option Action := table.lookup verb

/-- The verb is built in. -/
def isBuiltin (verb : Text) : Bool := (action? verb).isSome

/-- The verbs in order. -/
def names : List Text := table.map (·.1)

end Builtin

end AliasShell
