/-
The commands of a script's own: what they have in common, and those that write or only have a
status.

A command of its own works on the state itself.  What goes wrong in a special one ends the script,
and what goes wrong in another one is only its status.
-/
import AliasShell.Machine.Condition
import AliasShell.Machine.Script.Runner
import AliasShell.Text.Order

namespace AliasShell.Script

/-- What a command of the script's own does with its arguments. -/
abbrev Own := Runner → List Text → State → State

namespace Own

/-- The state after a complaint that is the command's only effect. -/
def refuse (s : State) (t : Text) : State := (s.complain t).withStatus 2

/-- A number that an argument is, without a sign. -/
def number? (t : Text) : Option Nat :=
  if !t.isEmpty && t.all Char.isDigit then some (Integer.ofDigits t) else none

/-- The complaint about an argument that is no number. -/
def notNumber (t : Text) : Text := "Illegal number: " ++ t

/-- Letters of options in front, of which `known` are understood, and the arguments after them. -/
def flags (known : Text) : List Text → Except Char (Text × List Text)
  | [] => .ok ([], [])
  | arg :: args =>
    if arg = ['-', '-'] then .ok ([], args)
    else
      match arg with
      | '-' :: c :: cs =>
        match (c :: cs).find? fun c => !known.contains c with
        | some c => .error c
        | none => (flags known args).map fun (more, rest) => (c :: cs ++ more, rest)
      | _ => .ok ([], arg :: args)

/-- Options are only ever taken off. -/
theorem length_le_of_flags {known letters : Text} {args rest : List Text}
    (h : flags known args = .ok (letters, rest)) : rest.length ≤ args.length := by
  fun_induction flags known args generalizing letters rest with
  | case1 => simp_all
  | case2 args => simp_all
  | case3 => simp_all
  | case4 args _ c cs _ ih =>
    match hf : flags known args with
    | .error e => simp [hf, Except.map] at h
    | .ok (more, last) =>
      simp only [hf, Except.map, Except.ok.injEq, Prod.mk.injEq] at h
      have := ih hf
      obtain ⟨-, rfl⟩ := h
      simp only [List.length_cons]
      omega
  | case5 => simp_all

/-- The complaint about an option. -/
def badOption (c : Char) : Text := "Illegal option -" ++ [c]

/-- Text that a script reads back as one word. -/
def quotedFrom : Nat → Text → Text
  | 0, _ => []
  | n + 1, t =>
    let plain := t.takeWhile (· != '\'')
    let rest := t.drop plain.length
    let marks := rest.takeWhile (· == '\'')
    let after := rest.drop marks.length
    '\'' :: plain ++ '\'' ::
      if marks.isEmpty then []
      else '"' :: marks ++ '"' :: if after.isEmpty then [] else quotedFrom n after

/-- Text that a script reads back as one word. -/
def quoted (t : Text) : Text := quotedFrom (t.length + 1) t

/-- Text in ascending order of its lines' names. -/
def sortedByName (lines : List (Text × Text)) : List Text :=
  (lines.mergeSort fun a b => Text.le a.1 b.1).map (·.2)

/-- Lines as output. -/
def printed (lines : List Text) : Bytes := Text.bytes (lines.flatMap (· ++ ['\n']))

/-! ### Writing, and having a status -/

/-- Does nothing, with a status. -/
def constant (n : Nat) : Own := fun _ _ s => s.withStatus n

/-- The bytes of arguments with a blank between them, and whether one of them ended the text. -/
def echoed : List Text → Bytes × Bool
  | [] => ([], false)
  | arg :: args =>
    match EscapeStyle.script.bytes arg with
    | (b, true) => (b, true)
    | (b, false) =>
      match args with
      | [] => (b, false)
      | _ :: _ =>
        let (more, ended) := echoed args
        (b ++ 32 :: more, ended)

/-- Writes the arguments on one line; a first `-n` leaves out the line end. -/
def echo : Own := fun _ args s =>
  let (bare, args) := if args.head? = some ['-', 'n'] then (true, args.drop 1) else (false, args)
  let (b, ended) := echoed args
  s.say (if bare || ended then b else b ++ [10])

/-- Writes the arguments in a format. -/
def printf : Own := fun _ args s =>
  let args := if args.head? = some ['-', '-'] then args.drop 1 else args
  match args with
  | [] => refuse s "usage: printf format [arg ...]"
  | format :: args =>
    let d := Format.write .script format args
    let s := (d.complaints.foldl State.complain s).say d.output
    if d.complaints.isEmpty then s else s.withStatus (if d.stopped then 2 else 1)

/-- The truth of a condition. -/
def test : Own := fun _ args s =>
  match Condition.holds .script s.files args with
  | .ok truth => s.withStatus (Condition.code truth)
  | .error e => refuse s (Condition.message .script e)

/-- The truth of a condition in brackets. -/
def bracket : Own := fun r args s =>
  if args.getLast? = some [']'] then test r args.dropLast s else refuse s "missing ]"

end Own

end AliasShell.Script
