/-
The program: a shell on a machine of its own.

The arguments, the input and the variables that the shell looks at are those of the process that
runs it.  Files and programs are those of a fresh machine, which is gone when the shell ends: a line
can try anything, and nothing outside is touched.
-/
import AliasShell.CommandLine.Run
import AliasShell.Machine.Start

namespace AliasShell.Main

/-- The variables that are taken over from the process. -/
def inherited : List String :=
  ["PATH", "HOME", "PS1", "TERM", "TERM_PROGRAM", "COLORTERM", "CLICOLOR",
    "CLICOLOR_FORCE", "NO_COLOR"]

/-- The environment of the shell. -/
def environment : IO ProcessEnv := do
  let found ← inherited.filterMapM fun name => do
    return (← IO.getEnv name).map fun value =>
      (Text.encode name.toList, Text.encode value.toList)
  return .ofList found

/-- All that stands on the input, after what was read already. -/
partial def readAll (input : IO.FS.Stream) (before : ByteArray) : IO ByteArray := do
  let more ← input.read 4096
  if more.isEmpty then return before else readAll input (before ++ more)

/-- The input, where lines are to be read from it. -/
def readInput (args : List Text) : IO Bytes := do
  match Flags.ofArgs args with
  | .ok { command := none, .. } =>
    return (← readAll (← IO.getStdin) ByteArray.empty).toList
  | _ => return []

/-- Writes bytes to a channel. -/
def write (channel : IO.FS.Stream) (b : Bytes) : IO Unit := do
  channel.write b.toByteArray
  channel.flush

end AliasShell.Main

open AliasShell in
/-- Runs the shell and ends with its code. -/
def main (args : List String) : IO UInt32 := do
  let args := args.map String.toList
  let env ← Main.environment
  let files :=
    (env.get? "HOME").elim Machine.files fun home => Machine.files.create home (.ofDir 0)
  let situation : Situation :=
    { args
      input := ← Main.readInput args
      env
      cwd := "/"
      accountHome := some "/root"
      files }
  match situation.run Machine.launcher with
  | .refused _ =>
    Main.write (← IO.getStderr) (Text.encode Flags.helpText)
    return 2
  | .ended code output errors =>
    Main.write (← IO.getStdout) output
    Main.write (← IO.getStderr) errors
    return code.toUInt32
