/-
An output channel: what was written, by whom, and how much more it takes.

A channel with limited room keeps what fits of a write and refuses the rest; from then on it refuses
every write that is not empty.  Programs that the shell starts write to the same terminal, past the
limit, and so does the reader of lines, which shows the prompts.  What they wrote is kept in order
with what the shell wrote.
-/
import AliasShell.Text.Bytes

namespace AliasShell

/-- Who wrote. -/
inductive Origin where
  | shell
  | child
  | reader
  deriving Repr, DecidableEq

/-- An output channel. -/
structure Console where
  /-- The bytes that the shell may still write; `none` for a channel that takes everything. -/
  room : Option Nat
  /-- What was written, in order. -/
  log : List (Origin × Bytes)
  deriving Repr, DecidableEq

namespace Console

/-- A channel that takes everything. -/
def unlimited : Console := ⟨none, []⟩

/-- A channel for this many bytes. -/
def limited (room : Nat) : Console := ⟨some room, []⟩

/-- The reason a full channel gives. -/
def fullReason : Text := "sink full"

/-- The channel after a write of the shell, and whether all of it was taken. -/
def write (c : Console) (b : Bytes) : Console × Bool :=
  match c.room with
  | none => ({ c with log := c.log ++ [(.shell, b)] }, true)
  | some n =>
    (⟨some (n - b.length), c.log ++ [(.shell, b.take n)]⟩, decide (b.length ≤ n))

/-- The channel after a program has written. -/
def childWrote (c : Console) (b : Bytes) : Console := { c with log := c.log ++ [(.child, b)] }

/-- The channel after a prompt was shown. -/
def prompted (c : Console) (b : Bytes) : Console := { c with log := c.log ++ [(.reader, b)] }

/-- Everything that `o` wrote. -/
def written (c : Console) (o : Origin) : Bytes :=
  (c.log.filter (·.1 == o)).flatMap (·.2)

/-- Everything that was written, in order. -/
def bytes (c : Console) : Bytes := c.log.flatMap (·.2)

end Console

end AliasShell
