/-
Grapheme clusters: the pieces of a text that a reader takes for one character.

A text is cut between two characters unless a rule holds them together.  Most rules only look at the
two characters; flags, emoji sequences and linked Indic consonants also depend on what stands
before, and `Trail` keeps of it what they need.
-/
import AliasShell.Text.BreakClass

namespace AliasShell

/-- The one part of a Korean syllable goes on with the other. -/
def Jamo.joins : Jamo → Jamo → Bool
  | .lead, .final => false
  | .lead, _ => true
  | .openSyllable, b | .vowel, b => b == .vowel || b == .final
  | .closedSyllable, b | .final, b => b == .final

namespace Cluster

/-- How far a sequence of pictographs has come. -/
inductive Chain where
  | none
  /-- a pictograph and what extends it -/
  | base
  /-- and a joiner after them -/
  | joined
  deriving Repr, DecidableEq

/-- What the rules need of the characters that stand before a place. -/
structure Trail where
  last : BreakClass
  chain : Chain
  /-- The number of flag halves in a row is odd. -/
  halfFlag : Bool
  /-- An Indic consonant comes before, with nothing but extending characters after it. -/
  consonant : Bool
  /-- One of them links. -/
  linked : Bool
  deriving Repr, DecidableEq

namespace Trail

/-- The trail after its first character. -/
def first (c : BreakClass) : Trail where
  last := c
  chain := if c = .pictograph then .base else .none
  halfFlag := c == .regional
  consonant := c == .consonant
  linked := false

/-- The trail after one more character. -/
def next (x : Trail) (c : BreakClass) : Trail :=
  match c with
  | .extending =>
    { x with last := c, halfFlag := false, chain := if x.chain = .base then .base else .none }
  | .linking =>
    { x with
      last := c
      halfFlag := false
      chain := if x.chain = .base then .base else .none
      linked := x.consonant }
  | .nonJoiner =>
    { first c with chain := if x.chain = .base then .base else .none }
  | .joiner =>
    { x with last := c, halfFlag := false, chain := if x.chain = .base then .joined else .none }
  | .regional => { first c with halfFlag := !x.halfFlag }
  | _ => first c

/-- A text is cut between the characters of a trail and the next one. -/
def cuts (x : Trail) (c : BreakClass) : Bool :=
  match x.last, c with
  | .carriageReturn, .lineFeed => false
  | .carriageReturn, _ | .lineFeed, _ | .control, _ => true
  | _, .carriageReturn | _, .lineFeed | _, .control => true
  | _, .extending | _, .linking | _, .nonJoiner | _, .joiner | _, .spacing => false
  | .leading, _ => false
  | .jamo a, .jamo b => !a.joins b
  | _, .consonant => !x.linked
  | _, .pictograph => x.chain != .joined
  | _, .regional => !x.halfFlag
  | _, _ => true

end Trail

/-- The clusters of a text that goes on after `current`, the last character first. -/
def rest : Trail → Text → Text → List Text
  | _, current, [] => [current.reverse]
  | x, current, c :: cs =>
    let k := BreakClass.ofChar c
    if x.cuts k then current.reverse :: rest (x.next k) [c] cs
    else rest (x.next k) (c :: current) cs

end Cluster

/-- The clusters of a text, one after another. -/
def Text.clusters : Text → List Text
  | [] => []
  | c :: cs => Cluster.rest (.first (.ofChar c)) [c] cs

end AliasShell
