/-
A typed line in colour: its pieces, each with a style, and how they are written on a terminal.

White space and separators are kept as typed, so the pieces side by side are the line again.  The
first word of every command is its verb; of the other words, those that begin with `-` are flags.
-/
import AliasShell.Command
import AliasShell.Text.Order

namespace AliasShell

/-- What a piece of text is shown as. -/
inductive Style where
  | verb
  | flag
  | separator
  | error
  | hint
  deriving Repr, DecidableEq

/-- Text in one style, or in none. -/
structure Piece where
  style : Option Style
  text : Text
  deriving Repr, DecidableEq

namespace Piece

/-- A character of a word. -/
def isWordChar (c : Char) : Bool := !isBlank c && !Command.isSeparator c

/-- The style of a word. -/
def wordStyle (first : Bool) (word : Text) : Option Style :=
  if first then some .verb else if word.startsWith "-" then some .flag else none

/-- The pieces of a line; `first` says that the next word is a verb. -/
def ofLine (first : Bool) : Text → List Piece
  | [] => []
  | c :: cs =>
    if isBlank c then
      ⟨none, c :: cs.takeWhile isBlank⟩ :: ofLine first (cs.dropWhile isBlank)
    else if Command.isSeparator c then ⟨some .separator, [c]⟩ :: ofLine true cs
    else
      let word := c :: cs.takeWhile isWordChar
      ⟨wordStyle first word, word⟩ :: ofLine false (cs.dropWhile isWordChar)
termination_by t => t.length
decreasing_by
  all_goals
    have := (List.dropWhile_suffix (l := cs) isBlank).length_le
    have := (List.dropWhile_suffix (l := cs) isWordChar).length_le
    simp only [List.length_cons]
    omega

end Piece

/-! ### Colour -/

namespace Style

/-- The escape codes that switch a style on. -/
def codes : Style → Text
  | .verb => "\x1b[36m\x1b[1m"
  | .flag => "\x1b[33m"
  | .separator => "\x1b[35m"
  | .error => "\x1b[31m\x1b[1m"
  | .hint => "\x1b[38;2;128;128;128m"

/-- The escape code that switches every style off. -/
def reset : Text := "\x1b[0m"

/-- A text between the codes of a style and the reset. -/
def wrap (style : Style) (t : Text) : Text := style.codes ++ t ++ reset

end Style

/-- A piece as it is written. -/
def Piece.render (p : Piece) : Text :=
  match p.style with
  | some style => style.wrap p.text
  | none => p.text

/-- Shows text with colours, or without. -/
structure Highlighter where
  colour : Bool
  deriving Repr, DecidableEq

namespace Highlighter

/-- A typed line. -/
def line (h : Highlighter) (t : Text) : Text :=
  if h.colour then (Piece.ofLine true t).flatMap Piece.render else t

/-- A text all in one style. -/
def all (h : Highlighter) (style : Style) (t : Text) : Text :=
  if h.colour then style.wrap t else t

/-- A report of a failure. -/
def error (h : Highlighter) (t : Text) : Text := h.all .error t

/-- A suggestion behind the cursor. -/
def hint (h : Highlighter) (t : Text) : Text := h.all .hint t

/-! ### When there is colour -/

/-- Parts of a terminal's name that tell of colour. -/
def colourTerms : List Text :=
  ["xterm-truecolor", "konsole", "tmux", "screen-truecolor", "alacritty", "kitty", "terminator",
    "terminology", "eterm", "rxvt-unicode", "xterm-ghostty", "vte", "termious", "256", "color",
    "ansi", "xterm", "screen"]

/-- Terminal programs that have colour. -/
def colourPrograms : List Text := ["iTerm.app", "Apple_Terminal", "Hyper"]

/-- A character in lower case, as far as English letters are written for it: besides the capital
letters these are the Kelvin sign and the capital I with a dot. -/
def lowerChar (c : Char) : Text :=
  if c = '\u212a' then ['k'] else if c = '\u0130' then ['i', '\u0307'] else [c.toLower]

/-- There is colour, as far as the variables tell: `NO_COLOR` and then `CLICOLOR` switch it off
whatever else is set; each of the others switches it on. -/
def hasColour (var : Text → Option Text) : Bool :=
  if (var "NO_COLOR").isSome then false
  else if var "CLICOLOR" == some "0".toList then false
  else
    (var "COLORTERM").any (fun v => v.hasPart "truecolor" || v.hasPart "24bit") ||
      (var "TERM").any (fun v =>
        colourTerms.any fun part => Text.hasPart (v.flatMap lowerChar) part) ||
      (var "TERM_PROGRAM").any (colourPrograms.contains ·) ||
      var "CLICOLOR_FORCE" == some "1".toList

/-- With colour if the variables tell of it. -/
def ofVars (var : Text → Option Text) : Highlighter := ⟨hasColour var⟩

/-- Without colour. -/
def plain : Highlighter := ⟨false⟩

end Highlighter

end AliasShell
