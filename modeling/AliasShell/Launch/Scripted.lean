/-
A launcher that runs nothing and answers by the program's name.
-/
import AliasShell.Launch.Request

namespace AliasShell

/-- The answers, in the order in which they are looked for. -/
structure Scripted where
  /-- programs that are not there -/
  missing : List Text
  /-- programs that may not be run -/
  denied : List Text
  /-- programs that fail to start for a reason of their own -/
  broken : List (Text × Text)
  /-- how programs end; all others with code 0 -/
  endings : List (Text × Ending)

namespace Scripted

/-- The answer for a program. -/
def answer (s : Scripted) (program : Text) : Except LaunchError Ending :=
  if s.missing.contains program then .error (.notFound program)
  else if s.denied.contains program then .error (.failed program "permission denied")
  else
    match s.broken.lookup program with
    | some reason => .error (.failed program reason)
    | none => .ok ((s.endings.lookup program).getD (.exited 0))

/-- The launcher; it touches no file and writes nothing. -/
def launcher (s : Scripted) : Launcher where
  run files input _ request := ⟨s.answer request.program, files, input, [], []⟩

end Scripted

end AliasShell
