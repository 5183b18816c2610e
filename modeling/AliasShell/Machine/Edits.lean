/-
What has to go and what has to come to make one list of lines another one.

Lines are numbers here, equal ones for lines that count as equal.  What both lists begin and end
with is left aside.  In what remains, lines that the other list has nowhere are changed, and for the
others a shortest way from one list to the other is looked for from both ends at a time; where the
two searches meet, the lists are cut in two.  Runs of changed lines are then moved as far down as
they can be, or to where the other list has a run.
-/
import Std.Data.HashMap

namespace AliasShell.Edits

/-! ### Changes -/

/-- A place where two lists differ. -/
structure Change where
  /-- how many lines stand before it in each list -/
  old : Nat
  new : Nat
  removed : Nat
  added : Nat
  deriving Repr, DecidableEq

/-- The flag at a place; there are none outside. -/
def flag (flags : Array Bool) (i : Nat) : Bool := (flags[i]?).getD false

/-- The place before the flags in front of a place; at most `n`. -/
def skipBack (flags : Array Bool) : Nat → Nat → Nat
  | 0, j => j
  | _, 0 => 0
  | n + 1, j + 1 => if flag flags j then skipBack flags n j else j + 1

/-- The place behind the flags from a place on; at most `n`. -/
def skipOn (flags : Array Bool) : Nat → Nat → Nat
  | 0, j => j
  | n + 1, j => if flag flags j then skipOn flags n (j + 1) else j

/-- The changes that flags on the lines of two lists mean, from two places on; at most `n`. -/
def changesOf (gone come : Array Bool) : Nat → Nat → Nat → List Change
  | 0, _, _ => []
  | n + 1, i, j =>
    let removed := skipOn gone gone.size i - i
    let added := skipOn come come.size j - j
    if removed = 0 ∧ added = 0 then
      if gone.size ≤ i ∧ come.size ≤ j then [] else changesOf gone come n (i + 1) (j + 1)
    else
      ⟨i, j, removed, added⟩ :: changesOf gone come n (i + removed) (j + added)

/-! ### Numbers for lines -/

/-- Equal numbers for lines with equal keys. -/
def numbersOf {α : Type} [BEq α] [Hashable α] (old new : List α) : Array Nat × Array Nat :=
  let step (s : Std.HashMap α Nat × Array Nat) (x : α) : Std.HashMap α Nat × Array Nat :=
    match s.1[x]? with
    | some n => (s.1, s.2.push n)
    | none => (s.1.insert x s.1.size, s.2.push s.1.size)
  let (names, a) := old.foldl step ({}, #[])
  let (_, b) := new.foldl step (names, #[])
  (a, b)

/-- The length of what two lists begin with. -/
def common {α : Type} [BEq α] : List α → List α → Nat
  | a :: as, b :: bs => if a == b then common as bs + 1 else 0
  | _, _ => 0

/-! ### Meeting in the middle -/

/-- Two lists that are compared. -/
structure Pair where
  a : Array Nat
  b : Array Nat

/-- The lines at two places are equal. -/
def Pair.same (p : Pair) (x y : Int) : Bool := p.a[x.toNat]? == p.b[y.toNat]?

/-- How far equal lines go on from two places, up to two others; at most `n`. -/
def Pair.down (p : Pair) (xlim ylim : Int) : Nat → Int → Int → Int
  | 0, x, _ => x
  | n + 1, x, y =>
    if x < xlim ∧ y < ylim ∧ p.same x y then down p xlim ylim n (x + 1) (y + 1) else x

/-- How far equal lines go back from two places, down to two others; at most `n`. -/
def Pair.up (p : Pair) (xoff yoff : Int) : Nat → Int → Int → Int
  | 0, x, _ => x
  | n + 1, x, y =>
    if xoff < x ∧ yoff < y ∧ p.same (x - 1) (y - 1) then up p xoff yoff n (x - 1) (y - 1) else x

/-- How far a search has come on each diagonal, and which diagonals it is on. -/
structure Reach where
  ends : Array Int
  low : Int
  high : Int

/-- A part of two lists, with the diagonals that run through it. -/
structure Box where
  xoff : Int
  xlim : Int
  yoff : Int
  ylim : Int

namespace Box

/-- The lowest diagonal. -/
def least (b : Box) : Int := b.xoff - b.ylim

/-- The highest diagonal. -/
def most (b : Box) : Int := b.xlim - b.yoff

/-- The place of a diagonal. -/
def place (b : Box) (d : Int) : Nat := (d - b.least + 1).toNat

/-- How far a search has come on a diagonal. -/
def at_ (b : Box) (r : Reach) (d : Int) : Int := (r.ends[b.place d]?).getD 0

/-- A search that has come this far on a diagonal. -/
def set (b : Box) (r : Reach) (d x : Int) : Reach :=
  { r with ends := r.ends.setIfInBounds (b.place d) x }

/-- A search that has been widened by a diagonal at each side, or narrowed where there is none. -/
def widen (b : Box) (missing : Int) (r : Reach) : Reach :=
  let r := if b.least < r.low then { b.set r (r.low - 2) missing with low := r.low - 1 }
    else { r with low := r.low + 1 }
  if r.high < b.most then { b.set r (r.high + 2) missing with high := r.high + 1 }
  else { r with high := r.high - 1 }

/-- One step of the search from the beginning on every other diagonal from `d` down; where it meets
the other search, that is the answer. -/
def forth (p : Pair) (b : Box) (odd : Bool) (other : Reach) :
    Nat → Int → Reach → Reach ⊕ (Int × Int)
  | 0, _, r => .inl r
  | n + 1, d, r =>
    if d < r.low then .inl r
    else
      let low := b.at_ r (d - 1)
      let high := b.at_ r (d + 1)
      let x0 := if low < high then high else low + 1
      let x := p.down b.xlim b.ylim (b.xlim - x0).toNat x0 (x0 - d)
      let r := b.set r d x
      if odd ∧ other.low ≤ d ∧ d ≤ other.high ∧ b.at_ other d ≤ x then .inr (x, x - d)
      else forth p b odd other n (d - 2) r

/-- The same from the end. -/
def back (p : Pair) (b : Box) (odd : Bool) (other : Reach) : Nat → Int → Reach → Reach ⊕ (Int × Int)
  | 0, _, r => .inl r
  | n + 1, d, r =>
    if d < r.low then .inl r
    else
      let low := b.at_ r (d - 1)
      let high := b.at_ r (d + 1)
      let x0 := if low < high then low else high - 1
      let x := p.up b.xoff b.yoff (x0 - b.xoff).toNat x0 (x0 - d)
      let r := b.set r d x
      if !odd ∧ other.low ≤ d ∧ d ≤ other.high ∧ x ≤ b.at_ other d then .inr (x, x - d)
      else back p b odd other n (d - 2) r

/-- Both searches step by step until they meet; at most `n` steps. -/
def meet (p : Pair) (b : Box) (width : Nat) (odd : Bool) : Nat → Reach → Reach → Int × Int
  | 0, _, _ => (b.xoff, b.ylim)
  | n + 1, f, r =>
    let f := b.widen (-1) f
    match b.forth p odd r width f.high f with
    | .inr found => found
    | .inl f =>
      let r := b.widen (b.xlim + b.ylim + 1) r
      match b.back p odd f width r.high r with
      | .inr found => found
      | .inl r => meet p b width odd n f r

/-- A place on a shortest way through two lists that differ at both ends. -/
def middle (p : Pair) (b : Box) : Int × Int :=
  let width := (b.most - b.least + 3).toNat
  let blank : Array Int := Array.replicate width 0
  let first := b.xoff - b.yoff
  let last := b.xlim - b.ylim
  let f := b.set ⟨blank, first, first⟩ first b.xoff
  let r := b.set ⟨blank, last, last⟩ last b.xlim
  b.meet p width ((first - last) % 2 != 0) (width + 1) f r

end Box

/-- Flags on the lines of two lists. -/
structure Flags where
  gone : Array Bool
  come : Array Bool

/-- The flags with those of a part set, in lists of which `indices` tells the places of lines; at
most `n` cuts deep. -/
def compare (p : Pair) (xs ys : Array Nat) : Nat → Box → Flags → Flags
  | 0, _, f => f
  | n + 1, b, f =>
    let xoff := p.down b.xlim b.ylim (b.xlim - b.xoff).toNat b.xoff b.yoff
    let yoff := b.yoff + (xoff - b.xoff)
    let xlim := p.up xoff yoff (b.xlim - xoff).toNat b.xlim b.ylim
    let ylim := b.ylim - (b.xlim - xlim)
    let mark (places : Array Nat) (first last : Int) (flags : Array Bool) : Array Bool :=
      (List.range (last - first).toNat).foldl
        (fun flags i => flags.setIfInBounds ((places[first.toNat + i]?).getD 0) true) flags
    if xoff = xlim then { f with come := mark ys yoff ylim f.come }
    else if yoff = ylim then { f with gone := mark xs xoff xlim f.gone }
    else
      let (x, y) := Box.middle p ⟨xoff, xlim, yoff, ylim⟩
      compare p xs ys n ⟨x, xlim, y, ylim⟩ (compare p xs ys n ⟨xoff, x, yoff, y⟩ f)

/-! ### Moving runs -/

/-- A run of changed lines that is being moved: where it begins and ends, and what place in the
other list its end stands beside. -/
structure Run where
  flags : Array Bool
  start : Nat
  finish : Nat
  other : Nat

/-- The run one line further up, together with the runs that it then touches. -/
def Run.rise (r : Run) (others : Array Bool) : Run :=
  let start := r.start - 1
  let flags := (r.flags.setIfInBounds start true).setIfInBounds (r.finish - 1) false
  { flags, start := skipBack flags start start, finish := r.finish - 1
    other := skipBack others others.size r.other - 1 }

/-- The run as far up as the lines before it are those at its end; at most `n` lines. -/
def Run.top (names : Array Nat) (others : Array Bool) : Nat → Run → Run
  | 0, r => r
  | n + 1, r =>
    if 0 < r.start ∧ names[r.start - 1]? = names[r.finish - 1]? then
      top names others n (r.rise others)
    else r

/-- The run as far down as the lines behind it are those at its beginning, with the last place where
it ended beside a run of the other list; at most `n` lines. -/
def Run.bottom (names : Array Nat) (others : Array Bool) : Nat → Nat → Run → Run × Nat
  | 0, beside, r => (r, beside)
  | n + 1, beside, r =>
    if r.finish < names.size ∧ names[r.start]? = names[r.finish]? then
      let flags := (r.flags.setIfInBounds r.start false).setIfInBounds r.finish true
      let finish := skipOn flags flags.size (r.finish + 1)
      let other := skipOn others others.size (r.other + 1)
      let beside := if r.other + 1 < other then finish else beside
      bottom names others n beside ⟨flags, r.start + 1, finish, other⟩
    else (r, beside)

/-- The run moved up and down until it touches no others; at most `n` times. -/
def Run.settle (names : Array Nat) (others : Array Bool) : Nat → Run → Run × Nat
  | 0, r => (r, r.finish)
  | n + 1, r =>
    let size := names.size + 1
    let up := r.top names others size
    let beside := if 0 < up.other ∧ flag others (up.other - 1) then up.finish else names.size
    let (down, beside) := up.bottom names others size beside
    if down.finish - down.start = r.finish - r.start then (down, beside)
    else settle names others n down

/-- The run as far up again as it stands beside a run of the other list; at most `n` lines. -/
def Run.goBack (others : Array Bool) (beside : Nat) : Nat → Run → Run
  | 0, r => r
  | n + 1, r =>
    if beside < r.finish then
      let start := r.start - 1
      let flags := (r.flags.setIfInBounds start true).setIfInBounds (r.finish - 1) false
      goBack others beside n ⟨flags, start, r.finish - 1, skipBack others others.size r.other - 1⟩
    else r

/-- Flags with all runs from a place on moved; at most `n`. -/
def moved (names : Array Nat) (others : Array Bool) : Nat → Nat → Nat → Array Bool → Array Bool
  | 0, _, _, flags => flags
  | n + 1, i, j, flags =>
    if names.size ≤ i then flags
    else if !flag flags i then
      moved names others n (i + 1) (skipOn others others.size j + 1) flags
    else
      let finish := skipOn flags flags.size i
      let run : Run := ⟨flags, i, finish, skipOn others others.size j⟩
      let (run, beside) := run.settle names others (names.size + 1)
      let run := run.goBack others beside (names.size + 1)
      moved names others n run.finish run.other run.flags

/-! ### Two lists -/

/-- The changes between two lists that have nothing left aside. -/
def between (a b : Array Nat) : List Change :=
  let inB : Std.HashMap Nat Unit := b.foldl (fun m x => m.insert x ()) {}
  let inA : Std.HashMap Nat Unit := a.foldl (fun m x => m.insert x ()) {}
  let kept (xs : Array Nat) (there : Std.HashMap Nat Unit) : Array Nat :=
    ((List.range xs.size).filter fun i => (xs[i]?).any there.contains).toArray
  let xs := kept a inB
  let ys := kept b inA
  let alone (all : Array Nat) (there : Std.HashMap Nat Unit) : Array Bool :=
    all.map fun x => !there.contains x
  let p : Pair := ⟨xs.filterMap (a[·]?), ys.filterMap (b[·]?)⟩
  let f := compare p xs ys (a.size + b.size + 1) ⟨0, xs.size, 0, ys.size⟩
    ⟨alone a inB, alone b inA⟩
  let gone := moved a f.come (2 * a.size + 1) 0 0 f.gone
  let come := moved b gone (2 * b.size + 1) 0 0 f.come
  changesOf gone come (a.size + b.size + 1) 0 0

/-- The changes between two lists of which equal lines at both ends are left aside, but for as many
of them as will be shown around changes. -/
def changes {α β : Type} [BEq α] [BEq β] [Hashable β] (key : α → β) (around : Nat)
    (old new : List α) :
    List Change :=
  let front := common old new - around
  let old := old.drop front
  let new := new.drop front
  let tail := common old.reverse new.reverse - around
  let (a, b) := numbersOf ((old.take (old.length - tail)).map key)
    ((new.take (new.length - tail)).map key)
  (between a b).map fun c => { c with old := c.old + front, new := c.new + front }


end AliasShell.Edits
