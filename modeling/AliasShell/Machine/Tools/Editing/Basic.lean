/-
Edits: what can be done to the lines of a content.

An edit is a row of commands.  Each of them is for some lines, and some of them say which command is
next; blocks are commands that lead around others.
-/
import AliasShell.Machine.Regex.Matcher

namespace AliasShell.Editing

/-- A line that a command is for. -/
inductive Address where
  | number (n : Nat)
  | last
  /-- a line, and from there on each one that is this much further -/
  | every (first step : Nat)
  /-- this much further than the line before it -/
  | further (n : Nat)
  /-- the next line whose number can be divided by this -/
  | multiple (n : Nat)
  /-- a line that holds a match; of the expression that was used last if there is none -/
  | fitting (m : Option Matcher)

/-- The lines that a command is for. -/
inductive Reach where
  | all
  | one (a : Address)
  | between (a b : Address)

/-- What happens to the case of letters. -/
inductive Case where
  | kept
  | upper
  | lower
  deriving Repr, DecidableEq

/-- What comes in the place of a match. -/
inductive Filler where
  | bytes (b : Bytes)
  | group (n : Nat)
  /-- the case of all that follows, and of the next letter only -/
  | case (c : Case)
  | nextCase (c : Case)
  deriving Repr, DecidableEq

/-- What is to be replaced by what. -/
structure Substitution where
  matcher : Option Matcher
  fill : List Filler
  /-- All matches, from the `nth` on. -/
  all : Bool
  nth : Nat
  prints : Bool
  /-- The file to which the line is written if anything was replaced. -/
  file : Option Text

/-- When a command goes on somewhere else. -/
inductive Condition where
  | always
  /-- something was replaced since the line was read, or nothing was -/
  | replaced (truth : Bool)
  deriving Repr, DecidableEq

/-- What a command does. -/
inductive Edit where
  | substitute (s : Substitution)
  | exchange (table : List (UInt8 × UInt8))
  | print
  | printFirst
  | spell (width : Option Nat)
  | number
  | source
  | delete
  | deleteFirst
  | empty
  | next
  | appendNext
  | hold
  | holdMore
  | get
  | getMore
  | swap
  | append (t : Bytes)
  | insert (t : Bytes)
  | change (t : Bytes)
  | appendFile (name : Text)
  | appendLine (name : Text)
  | write (name : Text)
  | writeFirst (name : Text)
  | quit (code : Nat)
  | leave (code : Nat)
  | jump (c : Condition) (label : Text)
  /-- goes on behind a block that is not for the line -/
  | block (next : Nat)
  | nothing

/-- A command of an edit. -/
structure Command where
  reach : Reach
  inverted : Bool
  edit : Edit

/-- A whole edit: its commands, and what labels lead to. -/
structure Script where
  commands : Array Command
  labels : List (Text × Nat)
  /-- Nothing is written of its own accord. -/
  quiet : Bool

/-- The files that an edit writes to. -/
def Script.written (s : Script) : List Text :=
  s.commands.toList.filterMap fun c =>
    match c.edit with
    | .substitute s => s.file
    | .write name | .writeFirst name => some name
    | _ => none

/-! ### Faults -/

/-- Why a text is no edit. -/
inductive Fault where
  | unterminated (what : Char)
  | unterminatedAddress
  | unknown (c : Char)
  | unknownOption
  | missingCommand
  | missingName
  | missingText
  | missingLabel
  | unclosed
  | unopened
  | extra
  | lengths
  | comma
  | twice (c : Char)
  | inverted
  | zeroNumber
  | zeroLine
  | furtherFirst
  | oneAddress
  | noAddress (what : Char)
  | group (n : Nat)
  | modifiers
  | newer
  | expression (f : Regex.Fault)
  deriving Repr, DecidableEq

/-- A letter of a command in quotes. -/
def quoted (c : Char) : Text := ['\x60', c, '\'']

/-- The wording of a fault. -/
def Fault.message : Fault → Text
  | .unterminated c => "unterminated " ++ quoted c ++ " command"
  | .unterminatedAddress => "unterminated address regex"
  | .unknown c => "unknown command: " ++ quoted c
  | .unknownOption => "unknown option to " ++ quoted 's'
  | .missingCommand => "missing command"
  | .missingName => "missing filename in r/R/w/W commands"
  | .missingText => "expected \\ after " ++ quoted 'a' ++ ", " ++ quoted 'c' ++ " or " ++ quoted 'i'
  | .missingLabel => "\":\" lacks a label"
  | .unclosed => "unmatched " ++ quoted '\x7b'
  | .unopened => "unexpected " ++ quoted '\x7d'
  | .extra => "extra characters after command"
  | .lengths => "strings for " ++ quoted 'y' ++ " command are different lengths"
  | .comma => "unexpected " ++ quoted ','
  | .twice c =>
    if c = '0' then "multiple number options to " ++ quoted 's' ++ " command"
    else "multiple " ++ quoted c ++ " options to " ++ quoted 's' ++ " command"
  | .inverted => "multiple \x60!'s"
  | .zeroNumber => "number option to " ++ quoted 's' ++ " command may not be zero"
  | .zeroLine => "invalid usage of line address 0"
  | .furtherFirst => "invalid usage of +N or ~N as first address"
  | .oneAddress => "command only uses one address"
  | .noAddress c =>
    if c = '#' then "comments don't accept any addresses" else c :: " doesn't want any addresses"
  | .group n =>
    "invalid reference \\" ++ (Nat.toDigits 10 n) ++ " on " ++ quoted 's' ++ " command's RHS"
  | .modifiers => "cannot specify modifiers on empty regexp"
  | .newer => "expected newer version of sed"
  | .expression f => f.message

end AliasShell.Editing
