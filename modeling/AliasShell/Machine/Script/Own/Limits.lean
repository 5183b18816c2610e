/-
`ulimit`: how much a script may have of what there is.

The limits are shown and set; nothing that runs on the machine comes upon one.
-/
import AliasShell.Machine.Script.Own.Basic

namespace AliasShell.Script.Own

/-- Something of which there is only so much. -/
structure Resource where
  letter : Char
  /-- What it is called in a table. -/
  title : String
  /-- How much of it the number 1 stands for. -/
  unit : Nat

/-- What there are limits for. -/
def resources : List Resource :=
  [⟨'t', "time(seconds)", 1⟩, ⟨'f', "file(blocks)", 512⟩, ⟨'d', "data(kbytes)", 1024⟩,
    ⟨'s', "stack(kbytes)", 1024⟩, ⟨'c', "coredump(blocks)", 512⟩, ⟨'m', "memory(kbytes)", 1024⟩,
    ⟨'l', "locked memory(kbytes)", 1024⟩, ⟨'p', "process", 1⟩, ⟨'n', "nofiles", 1⟩,
    ⟨'v', "vmemory(kbytes)", 1024⟩, ⟨'w', "locks", 1⟩, ⟨'r', "rtprio", 1⟩]

/-- What is asked of limits. -/
structure LimitWish where
  /-- The limit that holds is meant. -/
  soft : Bool := true
  /-- The limit is meant up to which the other one may be raised. -/
  hard : Bool := true
  all : Bool := false
  letter : Char := 'f'

/-- The wish with one more letter. -/
def LimitWish.with (w : LimitWish) : Char → LimitWish
  | 'H' => { w with soft := false, hard := true }
  | 'S' => { w with soft := true, hard := false }
  | 'a' => { w with all := true }
  | c => { w with letter := c }

/-- A limit as it is shown. -/
def LimitWish.shown (w : LimitWish) (x : Resource) (l : Limit) : Text :=
  match if w.soft then l.soft else l.hard with
  | none => "unlimited"
  | some n => Integer.digits (n / x.unit)

/-- The limit that a text means. -/
def limitOf? (x : Resource) (t : Text) : Option (Option Nat) :=
  if t = "unlimited".toList then some none
  else if t.all Char.isDigit then some (some (Integer.ofDigits t % Nat.pow 2 63 * x.unit))
  else none

/-- The first of two limits is within the second. -/
def isWithin : Option Nat → Option Nat → Bool
  | _, none => true
  | none, some _ => false
  | some a, some b => a ≤ b

/-- Sets a limit. -/
def setLimit (w : LimitWish) (x : Resource) (n : Option Nat) (s : State) : State :=
  let old := (s.limits.lookup x.letter).getD {}
  let l : Limit := ⟨if w.soft then n else old.soft, if w.hard then n else old.hard⟩
  if isWithin l.soft l.hard then
    { s.withStatus 0 with limits := (x.letter, l) :: s.limits.filter (·.1 != x.letter) }
  else refuse s "error setting limit: Invalid argument"

/-- Shows or sets limits. -/
def limits : Own := fun _ args s =>
  match flags ("HSa" ++ resources.map (·.letter)) args with
  | .error c => refuse s (badOption c)
  | .ok (letters, args) =>
    let w := letters.foldl LimitWish.with {}
    let limit (x : Resource) : Limit := (s.limits.lookup x.letter).getD {}
    let padded (t : Text) : Text := t ++ List.replicate (20 - t.length) ' ' ++ [' ']
    match resources.find? (·.letter == w.letter), args with
    | none, _ => s
    | some x, [] =>
      if w.all then
        s.say (printed (resources.map fun x => padded x.title ++ w.shown x (limit x)))
      else s.say (printed [w.shown x (limit x)])
    | some x, [t] =>
      if w.all then refuse s "too many arguments"
      else
        match limitOf? x t with
        | some n => setLimit w x n s
        | none => refuse s "bad number"
    | some _, _ => refuse s "too many arguments"

end AliasShell.Script.Own
