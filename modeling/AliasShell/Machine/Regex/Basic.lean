/-
Regular expressions over bytes, and why a text is none.
-/
import AliasShell.Text.Bytes

namespace AliasShell

/-- A place in a text that can be asked for without taking anything of it. -/
inductive Anchor where
  | textStart
  | textEnd
  | lineStart
  | lineEnd
  /-- the text ends here, but for one line end -/
  | lastEnd
  | wordStart
  | wordEnd
  /-- one of these two -/
  | wordEdge
  /-- neither of them -/
  | wordInside
  /-- no byte of a word stands in front -/
  | afterOther
  /-- no byte of a word follows -/
  | beforeOther
  deriving Repr, DecidableEq

/-- A regular expression. -/
inductive Regex where
  | empty
  /-- one byte of these ranges, or one of no range -/
  | set (inside : Bool) (ranges : List (UInt8 × UInt8))
  | anchor (a : Anchor)
  | group (n : Nat) (r : Regex)
  /-- what a group has fitted -/
  | again (n : Nat)
  | seq (a b : Regex)
  | either (a b : Regex)
  /-- repetitions; as few as possible are tried first if it is lazy -/
  | many (r : Regex) (least : Nat) (most : Option Nat) (lazily : Bool)
  /-- the expression fits what follows or what stands in front, or does not -/
  | look (ahead holds : Bool) (r : Regex)
  /-- the match begins here -/
  | restart
  deriving Repr, DecidableEq

namespace Regex

/-! ### Making them -/

/-- The expression that fits one byte. -/
def byte (b : UInt8) : Regex := .set true [(b, b)]

/-- The expression that fits a character. -/
def char (c : Char) : Regex := byte (Text.byteOf c)

/-- The expression that fits every byte. -/
def anything : Regex := .set false []

/-- The expression that fits a text as it stands. -/
def literally (t : Text) : Regex := t.foldr (fun c r => .seq (char c) r) .empty

/-- The expression that fits what one of several fits; the earlier ones are tried first. -/
def oneOf : List Regex → Regex
  | [] => .set true []
  | [r] => r
  | r :: rs => .either r (oneOf rs)

/-- The expression where it fits a whole line. -/
def wholeLine (r : Regex) : Regex := .seq (.anchor .lineStart) (.seq r (.anchor .lineEnd))

/-- The expression where it neither goes on from a word nor goes on in one. -/
def wholeWord (r : Regex) : Regex := .seq (.anchor .afterOther) (.seq r (.anchor .beforeOther))

/-! ### Asking them -/

/-- The number of groups. -/
def groupCount : Regex → Nat
  | .group _ r => groupCount r + 1
  | .seq a b | .either a b => groupCount a + groupCount b
  | .many r _ _ _ => groupCount r
  | .look _ _ r => groupCount r
  | _ => 0

/-- The expression asks for what a group has fitted. -/
def looksBack : Regex → Bool
  | .again _ => true
  | .group _ r => looksBack r
  | .seq a b | .either a b => looksBack a || looksBack b
  | .many r _ _ _ => looksBack r
  | .look _ _ r => looksBack r
  | _ => false

/-- The expression can fit nothing at all. -/
def canBeEmpty : Regex → Bool
  | .set .. => false
  | .group _ r => canBeEmpty r
  | .seq a b => canBeEmpty a && canBeEmpty b
  | .either a b => canBeEmpty a || canBeEmpty b
  | .many r least _ _ => least == 0 || canBeEmpty r
  | _ => true

/-! ### Bytes -/

/-- The bytes of words. -/
def wordRanges : List (UInt8 × UInt8) := [(48, 57), (65, 90), (95, 95), (97, 122)]

/-- The bytes of blanks. -/
def blankRanges : List (UInt8 × UInt8) := [(9, 13), (32, 32)]

/-- The bytes of digits. -/
def digitRanges : List (UInt8 × UInt8) := [(48, 57)]

/-- The byte lies in one of the ranges. -/
def inRanges (ranges : List (UInt8 × UInt8)) (b : UInt8) : Bool :=
  ranges.any fun r => r.1 ≤ b && b ≤ r.2

/-- A byte of a word. -/
def isWordByte (b : UInt8) : Bool := inRanges wordRanges b

/-- The other case of a letter. -/
def otherCase (b : UInt8) : UInt8 :=
  if 65 ≤ b && b ≤ 90 then b + 32 else if 97 ≤ b && b ≤ 122 then b - 32 else b

/-! ### Faults -/

/-- Why a text is no expression. -/
inductive Fault where
  | brackets
  /-- brackets with nothing behind them -/
  | nothing
  | className
  | classForm
  | collation
  | rangeEnd
  | opening
  | closing
  | braces
  | content
  | size
  | backslash
  | reference
  | preceding
  deriving Repr, DecidableEq

/-- The wording of a fault. -/
def Fault.message : Fault → Text
  | .brackets => "Unmatched [, [^, [:, [., or [="
  | .nothing => "Invalid regular expression"
  | .className => "Invalid character class name"
  | .classForm => "character class syntax is [[:space:]], not [:space:]"
  | .collation => "Invalid collation character"
  | .rangeEnd => "Invalid range end"
  | .opening => "Unmatched ( or \\("
  | .closing => "Unmatched ) or \\)"
  | .braces => "Unmatched \\\x7b"
  | .content => "Invalid content of \\\x7b\\\x7d"
  | .size => "Regular expression too big"
  | .backslash => "Trailing backslash"
  | .reference => "Invalid back reference"
  | .preceding => "Invalid preceding regular expression"

end Regex

end AliasShell
