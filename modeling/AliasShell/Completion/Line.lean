/-
Completing at the cursor.

What is completed is the word that ends at the cursor.  It is a verb when nothing but white space
stands before it in its command, and a path otherwise.
-/
import AliasShell.Builtin.Table
import AliasShell.Command
import AliasShell.Completion.Paths

namespace AliasShell

/-- Completes both kinds of words. -/
structure Completer where
  verbs : VerbCompleter
  paths : PathCompleter
  deriving Repr, DecidableEq

/-- What can stand in place of a word, and where the word begins, in bytes. -/
structure Completion where
  start : Nat
  candidates : List Candidate
  deriving Repr, DecidableEq

/-- The word before the cursor: what there is of a verb or of a path. -/
inductive CursorWord where
  | verb (word : Text)
  | path (word : Text)
  deriving Repr, DecidableEq

/-- The word as text. -/
def CursorWord.text : CursorWord → Text
  | .verb word | .path word => word

namespace Completer

/-- Knows the builtins and nothing of any session. -/
def fresh : Completer where
  verbs := VerbCompleter.empty.setBuiltins Builtin.names
  paths := ⟨[], none⟩

/-- Knows what a session knows now. -/
def sync (c : Completer) (s : Session) : Completer where
  verbs := (c.verbs.setAliases s.aliases.names).refresh s.files (s.env.get? "PATH")
  paths := ⟨s.cwd, s.home⟩

/-- The part of a text after its last separator. -/
def lastSegment (before : Text) : Text :=
  (before.reverse.takeWhile fun c => !Command.isSeparator c).reverse

/-- The longest end of a segment without white space. -/
def lastWord (segment : Text) : Text := (segment.reverse.takeWhile fun c => !isBlank c).reverse

/-- The word at the end of `before`, the text up to the cursor. -/
def cursorWord (before : Text) : CursorWord :=
  let segment := lastSegment before
  let word := lastWord segment
  let ahead := segment.take (segment.length - word.length)
  if (Text.trim ahead).isEmpty then .verb word else .path word

/-- What can stand in place of a word. -/
def choices (c : Completer) (fs : Files) : CursorWord → List Candidate
  | .verb word => c.verbs.complete word
  | .path word => c.paths.complete fs word

/-- Completes the word at the end of `before`. -/
def complete (c : Completer) (fs : Files) (before : Text) : Completion :=
  let w := cursorWord before
  { start := before.byteLength - w.text.byteLength, candidates := c.choices fs w }

end Completer

end AliasShell
