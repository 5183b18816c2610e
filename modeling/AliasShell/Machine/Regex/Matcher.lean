/-
Regular expressions as automata, and searching with them.  An automaton is steps with numbers, of
which each one takes a byte, asks for a place, or goes on at another one.

An automaton is run in one of two ways.  `sweep` goes through the text once with all ways through
the automaton side by side, of which no two are at one step; of two that come to one step the one
that began first stays.  `trace` follows one way after another and knows what the groups have
fitted; a step that was tried at a place is not tried there again, unless it matters how it was
reached.

Of several matches the first one counts, and of those that begin at one place the longest, or in the
richest way of writing the one that is tried first.
-/
import AliasShell.Machine.Regex.Basic
import AliasShell.Machine.Regex.Reader

namespace AliasShell

/-- A step of an automaton.  All but those that say otherwise go on with the step behind them. -/
inductive Step where
  /-- takes one of the bytes -/
  | take (bytes : Array Bool)
  /-- goes on at both steps, rather at the first -/
  | fork (first second : Nat)
  | jump (next : Nat)
  | check (a : Anchor)
  /-- notes the place -/
  | note (slot : Nat)
  /-- the place is not the one that was noted -/
  | moved (slot : Nat)
  | again (n : Nat)
  /-- what the steps behind it come to, up to a last one, is asked for; goes on at another -/
  | look (ahead holds : Bool) (next : Nat)
  | done
  deriving Repr, DecidableEq

/-- An automaton. -/
structure Automaton where
  steps : Array Step
  /-- Letters fit in both cases. -/
  folds : Bool
  /-- Lines begin and end in the middle of the text too. -/
  lines : Bool

namespace Automaton

/-! ### From an expression -/

/-- The slot in which the place of a group's beginning is noted; that of its end follows. -/
def slotOf (n : Nat) : Nat := 2 * n

/-- The bytes of a set. -/
def bytesOf (folds inside : Bool) (ranges : List (UInt8 × UInt8)) : Array Bool :=
  let has (b : UInt8) : Bool := Regex.inRanges ranges b
  ((List.range 256).map fun n =>
    let b := UInt8.ofNat n
    (has b || (folds && has (Regex.otherCase b))) == inside).toArray

/-- Does something so many times. -/
def times {α : Type} (f : α → α) : Nat → α → α
  | 0, a => a
  | n + 1, a => times f n (f a)

/-- Steps that lead around others; at `hole` there is a step to be filled in. -/
def around (lazily : Bool) (hole inner outer : Nat) (s : Array Step) : Array Step :=
  s.setIfInBounds hole (if lazily then .fork outer inner else .fork inner outer)

/-- Steps that may be left out. -/
def perhaps (lazily : Bool) (f : Array Step → Array Step) (s : Array Step) : Array Step :=
  let hole := s.size
  let s := f (s.push .done)
  around lazily hole (hole + 1) s.size s

/-- Steps that may be gone through any number of times. -/
def repeatedly (lazily watched : Bool) (f : Array Step → Array Step) (s : Array Step) :
    Array Step :=
  let hole := s.size
  let s := s.push .done
  let s := if watched then s.push (.note (2 * hole + 1001)) else s
  let s := f s
  let s := if watched then s.push (.moved (2 * hole + 1001)) else s
  let s := s.push (.jump hole)
  around lazily hole (hole + 1) s.size s

/-- Steps that may be left out, so many times one within the other. -/
def nested (lazily : Bool) (f : Array Step → Array Step) : Nat → Array Step → Array Step
  | 0, s => s
  | n + 1, s => perhaps lazily (fun s => nested lazily f n (f s)) s

/-- The steps with those of an expression behind them. -/
def add (folds : Bool) : Regex → Array Step → Array Step
  | .empty, s => s
  | .set inside ranges, s => s.push (.take (bytesOf folds inside ranges))
  | .anchor a, s => s.push (.check a)
  | .group n r, s => (add folds r (s.push (.note (slotOf n)))).push (.note (slotOf n + 1))
  | .again n, s => s.push (.again n)
  | .seq a b, s => add folds b (add folds a s)
  | .either a b, s =>
    let hole := s.size
    let s := add folds a (s.push .done)
    let behind := s.size
    let s := add folds b (s.push .done)
    (s.setIfInBounds hole (.fork (hole + 1) (behind + 1))).setIfInBounds behind (.jump s.size)
  | .many r least most lazily, s =>
    let s := times (add folds r) least s
    match most with
    | none => repeatedly lazily r.canBeEmpty (add folds r) s
    | some n => nested lazily (add folds r) (n - least) s
  | .look ahead holds r, s =>
    let hole := s.size
    let s := (add folds r (s.push .done)).push .done
    s.setIfInBounds hole (.look ahead holds s.size)
  | .restart, s => s.push (.note 0)

/-- The automaton of an expression. -/
def ofRegex (folds lines : Bool) (r : Regex) : Automaton :=
  { steps := (add folds r #[]).push .done, folds, lines }

/-! ### Places -/

/-- The byte is there, and is one of a word. -/
def isWordAt (t : Array UInt8) (i : Nat) : Bool :=
  match t[i]? with
  | some b => Regex.isWordByte b
  | none => false

/-- The place is what an anchor asks for. -/
def isAt (lines : Bool) (t : Array UInt8) (i : Nat) (a : Anchor) : Bool :=
  let before := i != 0 && isWordAt t (i - 1)
  let after := isWordAt t i
  match a with
  | .textStart => i == 0
  | .textEnd => i == t.size
  | .lineStart => i == 0 || (lines && t[i - 1]? == some 10)
  | .lineEnd => i == t.size || (lines && t[i]? == some 10)
  | .lastEnd => i == t.size || (t[i]? == some 10 && (lines || i + 1 == t.size))
  | .wordStart => !before && after
  | .wordEnd => before && !after
  | .wordEdge => before != after
  | .wordInside => before == after
  | .afterOther => !before
  | .beforeOther => !after

/-! ### All ways side by side -/

/-- The steps that ways through the automaton have come to at one place, each with the place that
the way began at, in the order of those; and where each step was last come to. -/
structure Front where
  ways : Array (Nat × Nat)
  seen : Array Nat

/-- The front with what a step leads to without taking a byte; at most `n` steps in a row. -/
def reach (m : Automaton) (t : Array UInt8) (i origin : Nat) : Nat → Nat → Front → Front
  | 0, _, f => f
  | n + 1, k, f =>
    if f.seen.getD k 0 = i + 1 then f
    else
      let f : Front := ⟨f.ways, f.seen.setIfInBounds k (i + 1)⟩
      match m.steps[k]? with
      | none => f
      | some (.fork a b) => reach m t i origin n b (reach m t i origin n a f)
      | some (.jump a) => reach m t i origin n a f
      | some (.check a) => if isAt m.lines t i a then reach m t i origin n (k + 1) f else f
      | some (.note _) => reach m t i origin n (k + 1) f
      | some (.moved _) => reach m t i origin n (k + 1) f
      | some _ => ⟨f.ways.push (k, origin), f.seen⟩

/-- One byte further. -/
def advance (m : Automaton) (t : Array UInt8) (i : Nat) (b : UInt8) (ways : Array (Nat × Nat))
    (seen : Array Nat) : Front :=
  ways.foldl
    (fun f (k, origin) =>
      match m.steps[k]? with
      | some (.take bytes) =>
        if bytes.getD b.toNat false then reach m t (i + 1) origin (m.steps.size + 1) (k + 1) f
        else f
      | _ => f)
    ⟨#[], seen⟩

/-- The way among several that has come to the end and began first. -/
def finished (m : Automaton) (ways : Array (Nat × Nat)) : Option Nat :=
  ways.foldl
    (fun best (k, origin) =>
      match best, m.steps[k]? with
      | none, some .done => some origin
      | best, _ => best)
    none

/-- Goes through the text from a place on, at most `n` bytes far.  `best` is the match so far; ways
that began behind it do not count, and no others begin. -/
def sweep (m : Automaton) (t : Array UInt8) (fresh : Bool) :
    Nat → Nat → Option (Nat × Nat) → Front → Option (Nat × Nat)
  | 0, _, best, _ => best
  | n + 1, i, best, f =>
    let f := match best with
      | some _ => f
      | none => if fresh then reach m t i i (m.steps.size + 1) 0 f else f
    let best := match finished m f.ways with
      | some origin => some (origin, i)
      | none => best
    let ways := match best with
      | some (origin, _) => f.ways.filter fun w => w.2 ≤ origin
      | none => f.ways
    if ways.isEmpty && (best.isSome || !fresh) then best
    else
      match t[i]? with
      | none => best
      | some b => sweep m t fresh n (i + 1) best (advance m t i b ways f.seen)

/-- The first match that begins at a place or after it, and of those that begin there the longest.
-/
def longest (m : Automaton) (t : Array UInt8) (i : Nat) : Option (Nat × Nat) :=
  sweep m t true (t.size + 1 - i) i none ⟨#[], Array.replicate m.steps.size 0⟩

/-- The longest match that begins at a place. -/
def longestAt (m : Automaton) (t : Array UInt8) (i : Nat) : Option Nat :=
  let f := reach m t i i (m.steps.size + 1) 0 ⟨#[], Array.replicate m.steps.size 0⟩
  (sweep m t false (t.size + 1 - i) i none f).map (·.2)

/-! ### One way after another -/

/-- The places that were noted, the last one first. -/
abbrev Notes := List (Nat × Nat)

/-- What a group has fitted. -/
def Notes.group? (ns : Notes) (n : Nat) : Option (Nat × Nat) :=
  match ns.lookup (slotOf n), ns.lookup (slotOf n + 1) with
  | some a, some b => some (a, b)
  | _, _ => none

/-- Which end of a match is looked for. -/
inductive Goal where
  /-- the one that is come to first -/
  | first
  /-- the one that is farthest -/
  | farthest
  | exactly (i : Nat)
  deriving Repr, DecidableEq

/-- A way that is to be followed: a step, a place and what was noted before. -/
structure Way where
  step : Nat
  index : Nat
  notes : Notes

/-- The bytes are the same from two places on; at most `n` of them. -/
def sameBytes (folds : Bool) (t : Array UInt8) : Nat → Nat → Nat → Bool
  | 0, _, _ => true
  | n + 1, i, j =>
    match t[i]?, t[j]? with
    | some a, some b =>
      (a == b || (folds && Regex.otherCase a == b)) && sameBytes folds t n (i + 1) (j + 1)
    | _, _ => false

/-- The place behind which a way need not be followed. -/
def Goal.limit (g : Goal) (t : Array UInt8) : Nat :=
  match g with
  | .exactly i => i
  | _ => t.size

/-- Follows ways one after another, at most `n` steps in all.  `tried` holds the steps and places
that need not be tried again; it is empty where it matters how a step was reached. -/
def trace (m : Automaton) (t : Array UInt8) (base : Nat) (goal : Goal) :
    Nat → List Way → Array Bool → Option (Nat × Notes) → Option (Nat × Notes)
  | 0, _, _, best => best
  | _, [], _, best => best
  | n + 1, w :: ws, tried, best =>
    let limit := goal.limit t
    let key := w.step * (limit + 1 - base) + (w.index - base)
    if tried.getD key false then trace m t base goal n ws tried best
    else
      let tried := tried.setIfInBounds key true
      let on (ws : List Way) : Option (Nat × Notes) := trace m t base goal n ws tried best
      match m.steps[w.step]? with
      | none => on ws
      | some (.take bytes) =>
        match t[w.index]? with
        | some b =>
          if w.index < limit && bytes.getD b.toNat false then
            on (⟨w.step + 1, w.index + 1, w.notes⟩ :: ws)
          else on ws
        | none => on ws
      | some (.fork a b) => on (⟨a, w.index, w.notes⟩ :: ⟨b, w.index, w.notes⟩ :: ws)
      | some (.jump a) => on (⟨a, w.index, w.notes⟩ :: ws)
      | some (.check a) =>
        if isAt m.lines t w.index a then on (⟨w.step + 1, w.index, w.notes⟩ :: ws) else on ws
      | some (.note slot) => on (⟨w.step + 1, w.index, (slot, w.index) :: w.notes⟩ :: ws)
      | some (.moved slot) =>
        if w.notes.lookup slot = some w.index then on ws
        else on (⟨w.step + 1, w.index, w.notes⟩ :: ws)
      | some (.again k) =>
        match w.notes.group? k with
        | some (a, b) =>
          if sameBytes m.folds t (b - a) a w.index then
            on (⟨w.step + 1, w.index + (b - a), w.notes⟩ :: ws)
          else on ws
        | none => on ws
      | some (.look ahead holds next) =>
        let found :=
          if ahead then
            (trace m t base .first n [⟨w.step + 1, w.index, w.notes⟩] #[] none).isSome
          else
            (List.range (w.index + 1)).any fun i =>
              (trace m t base (.exactly w.index) n [⟨w.step + 1, i, w.notes⟩] #[] none).isSome
        if found == holds then on (⟨next, w.index, w.notes⟩ :: ws) else on ws
      | some .done =>
        match goal with
        | .first => some (w.index, w.notes)
        | .exactly i => if w.index = i then some (w.index, w.notes) else on ws
        | .farthest =>
          let farther : Bool := match best with
            | some (i, _) => decide (i < w.index)
            | none => true
          trace m t base goal n ws tried (if farther then some (w.index, w.notes) else best)

/-- How many steps are followed where it matters how they are reached. -/
def patience : Nat := 2000000

/-- The match that begins at a place, with what was noted.  `forgets` says that it does not matter
how a step was reached. -/
def traceAt (m : Automaton) (t : Array UInt8) (goal : Goal) (forgets : Bool) (i : Nat) :
    Option (Nat × Notes) :=
  let places := m.steps.size * (goal.limit t + 1 - i)
  let tried := if forgets then Array.replicate places false else #[]
  trace m t i goal (if forgets then 3 * places + 3 else patience) [⟨0, i, []⟩] tried none

end Automaton

/-! ### Searching -/

/-- A piece of a text that an expression fits, and what the groups of the expression fit in it. -/
structure Match where
  start : Nat
  finish : Nat
  groups : Automaton.Notes
  deriving Repr, DecidableEq

/-- What a group fits, or the whole expression for 0. -/
def Match.group? (m : Match) (n : Nat) : Option (Nat × Nat) :=
  if n = 0 then some (m.start, m.finish) else m.groups.group? n

/-- An expression that is ready to be searched with. -/
structure Matcher where
  automaton : Automaton
  /-- How many groups there are. -/
  groups : Nat
  /-- It matters how a step is reached. -/
  looksBack : Bool
  /-- The match that is tried first counts. -/
  eager : Bool

namespace Matcher

/-- An expression made ready. -/
def ofRegex (folds lines eager : Bool) (r : Regex) : Matcher :=
  { automaton := .ofRegex folds lines r
    groups := r.groupCount
    looksBack := r.looksBack
    eager }

/-- The match that begins at a place. -/
def at? (m : Matcher) (t : Array UInt8) (i : Nat) : Option Match :=
  let goal : Automaton.Goal := if m.eager then .first else .farthest
  (m.automaton.traceAt t goal (!m.looksBack && m.eager) i).map fun (j, notes) =>
    ⟨(notes.lookup 0).getD i, j, notes⟩

/-- The first match from a place on; at most `n` places are tried. -/
def search (m : Matcher) (t : Array UInt8) : Nat → Nat → Option Match
  | 0, _ => none
  | n + 1, i =>
    match m.at? t i with
    | some found => some found
    | none => search m t n (i + 1)

/-- The match of which the ends are known, with what the groups fit. -/
def withGroups (m : Matcher) (t : Array UInt8) (i j : Nat) : Match :=
  if m.groups = 0 then ⟨i, j, []⟩
  else
    match m.automaton.traceAt t (.exactly j) true i with
    | some (_, notes) => ⟨i, j, notes⟩
    | none => ⟨i, j, []⟩

/-- The ends of the first match from a place on. -/
def span? (m : Matcher) (t : Array UInt8) (i : Nat) : Option (Nat × Nat) :=
  if m.eager || m.looksBack then
    (m.search t (t.size + 1 - i) i).map fun found => (found.start, found.finish)
  else m.automaton.longest t i

/-- The first match from a place on. -/
def find? (m : Matcher) (t : Array UInt8) (i : Nat) : Option Match :=
  if m.eager || m.looksBack then m.search t (t.size + 1 - i) i
  else (m.automaton.longest t i).map fun (i, j) => m.withGroups t i j

/-- The match that begins where the text does. -/
def front? (m : Matcher) (t : Array UInt8) : Option Match :=
  if m.eager || m.looksBack then m.at? t 0
  else (m.automaton.longestAt t 0).map fun j => m.withGroups t 0 j

/-- The expression fits something in the text. -/
def isIn (m : Matcher) (t : Array UInt8) : Bool := (m.span? t 0).isSome

end Matcher

end AliasShell
