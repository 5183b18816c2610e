/-
Running a line.

The commands of a line run one after another.  A verb that is an alias when its turn comes is
replaced by the alias's text, and the result is a line of its own; any other verb is a builtin or a
program.  A command that fails is reported and the next one runs; `exit` ends the line, however
deeply it was reached.

The replacements of one command may follow each other only so often, and `runText` recurses on how
many are left.  `sequence_append` is why running a line in two parts is running it whole.
-/
import AliasShell.Builtin.Table
import AliasShell.Command
import AliasShell.Launch.Executor

namespace AliasShell

/-- What happened on a line. -/
structure Report where
  /-- The failures in order; none of them stopped the line. -/
  errors : List CommandError
  /-- The code of `exit`, if it ran; nothing ran after it. -/
  exit : Option Int
  deriving Repr, DecidableEq

namespace Report

/-- Nothing to tell. -/
def quiet : Report := ⟨[], none⟩

/-- One failure. -/
def failure (e : CommandError) : Report := ⟨[e], none⟩

/-- The report on what happened before, then on what happened after. -/
def append (a b : Report) : Report := ⟨a.errors ++ b.errors, b.exit⟩

/-- The report on one command. -/
def ofResult : Except CommandError Flow → Report
  | .ok .proceed => quiet
  | .ok (.exit code) => ⟨[], some code⟩
  | .error e => failure e

@[simp] theorem quiet_append (b : Report) : quiet.append b = b := rfl

end Report

namespace Dispatch

/-- How often one command may be replaced. -/
def aliasLimit : Nat := 20

/-- Runs the steps one after another until one of them exits. -/
def sequence {α : Type} (step : α → Session → Report × Session) :
    List α → Session → Report × Session
  | [], s => (.quiet, s)
  | c :: cs, s =>
    match step c s with
    | (r, s) =>
      if r.exit.isSome then (r, s)
      else
        match sequence step cs s with
        | (r', s) => (r.append r', s)

/-- Runs a command that is no alias: a builtin, or else a program. -/
def route (x : Executor) (c : Command) (s : Session) : Report × Session :=
  match Builtin.action? c.verb with
  | some action =>
    match action c.args s with
    | (s, result) => (.ofResult result, s)
  | none =>
    match x.spawn c.verb c.args s with
    | (s, .ok ()) => (.quiet, s)
    | (s, .error e) => (.failure (.ofLaunch e), s)

/-- Runs a text that may still be reached through `left - 1` more replacements. -/
def runText (x : Executor) : Nat → Text → Session → Report × Session
  | 0, text, s => (.failure (.recursionLimit text.trim aliasLimit), s)
  | left + 1, text, s =>
    sequence
      (fun c s =>
        match s.aliases.get? c.verb with
        | some replacement => runText x left (c.withVerb replacement) s
        | none => route x c s)
      (commands text) s

/-- Runs a line. -/
def run (x : Executor) (line : Text) (s : Session) : Report × Session :=
  runText x (aliasLimit + 1) line s

/-- Running steps in two parts: the second part runs where the first one ended, unless that
exited. -/
theorem sequence_append {α : Type} (step : α → Session → Report × Session) (as bs : List α)
    (s : Session) :
    sequence step (as ++ bs) s =
      match sequence step as s with
      | (r, s') =>
        if r.exit.isSome then (r, s')
        else
          match sequence step bs s' with
          | (r', s'') => (r.append r', s'') := by
  induction as generalizing s with
  | nil => simp [sequence, Report.quiet, Report.append]
  | cons a as ih =>
    simp only [List.cons_append, sequence]
    by_cases h : (step a s).1.exit.isSome
    · simp [h]
    · simp only [h, Bool.false_eq_true, if_false, ih]
      by_cases h' : (sequence step as (step a s).2).1.exit.isSome
      · simp [h', Report.append]
      · simp [h', Report.append]

end Dispatch

end AliasShell
