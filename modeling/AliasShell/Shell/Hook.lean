/-
Hooks: what an owner of a shell may put in front of the dispatcher.

A hook keeps a state of its own, of a type of its own.  It sees every line before it is run and may
deal with it; if it fails, the line is run as if there were no hook.
-/
import AliasShell.Session

namespace AliasShell

/-- A hook with its state. -/
structure Hook (σ : Type) where
  state : σ
  /-- What it does before a prompt is shown. -/
  onPrompt : σ → Session → σ × Session
  /-- Whether it has dealt with a line, or why it could not. -/
  onLine : Text → σ → Session → Except Text Bool × σ × Session

namespace Hook

variable {σ : Type}

/-- A failure of a hook, as it is reported. -/
def failure (reason : Text) : Text := "input hook failed: " ++ reason

/-- The hook and the session when a prompt is about to be shown. -/
def beforePrompt (h : Hook σ) (s : Session) : Hook σ × Session :=
  match h.onPrompt h.state s with
  | (state, s) => ({ h with state }, s)

/-- Shows a line to the hook. -/
def input (h : Hook σ) (line : Text) (s : Session) : Except Text Bool × Hook σ × Session :=
  match h.onLine line h.state s with
  | (answer, state, s) => (answer, { h with state }, s)

end Hook

/-- What a watch does with a line: first it is recorded, then refused or dealt with. -/
structure Watch where
  /-- The variable to which every line is added, in brackets. -/
  record : Option Text
  /-- Lines on which the watch fails, with the reasons. -/
  failures : List (Text × Text)
  /-- Lines that begin so are dealt with. -/
  handled : Option Text
  deriving Repr, DecidableEq

namespace Watch

/-- The session with a line added to the record; a variable that cannot be set stays as it is. -/
def note (w : Watch) (line : Text) (s : Session) : Session :=
  match w.record with
  | none => s
  | some name =>
    match s.env.set name ((s.env.get? name).getD [] ++ '[' :: line ++ [']']) with
    | .ok env => { s with env }
    | .error _ => s

/-- The watch's answer to a line. -/
def answer (w : Watch) (line : Text) : Except Text Bool :=
  match w.failures.lookup line with
  | some reason => .error reason
  | none => .ok (w.handled.any line.startsWith)

/-- The watch as a hook, which keeps nothing in mind. -/
def hook (w : Watch) : Hook Unit where
  state := ()
  onPrompt _ s := ((), s)
  onLine line _ s := (w.answer line, (), w.note line s)

end Watch

end AliasShell
