/-
Commands: what a line is made of.

A line is cut at every `;` into segments, and a segment into words, the first of which is the verb.
Nothing is quoted or escaped, so no word holds a `;` or white space.
-/
import AliasShell.Text.Blank

namespace AliasShell

/-- A verb with its arguments. -/
structure Command where
  verb : Text
  args : List Text
  deriving Repr, DecidableEq

namespace Command

/-- The character between commands. -/
def isSeparator (c : Char) : Bool := c == ';'

/-- The command that a list of words is; there is none without words. -/
def ofWords? : List Text → Option Command
  | [] => none
  | verb :: args => some ⟨verb, args⟩

/-- The words of a command. -/
def toWords (c : Command) : List Text := c.verb :: c.args

@[simp] theorem ofWords?_toWords (c : Command) : ofWords? c.toWords = some c := rfl

/-- The command that a segment holds; a blank segment holds none. -/
def parse? (segment : Text) : Option Command := ofWords? segment.words

/-- The arguments behind another text in place of the verb. -/
def withVerb (c : Command) (replacement : Text) : Text :=
  replacement ++ ' ' :: Text.unwords c.args

end Command

/-- The segments of a line, trimmed, without the blank ones. -/
def segments (line : Text) : List Text :=
  ((line.cut Command.isSeparator).map Text.trim).filter fun s => !s.isEmpty

/-- The commands of a line. -/
def commands (line : Text) : List Command := (segments line).filterMap Command.parse?

end AliasShell
