/-
Rights of files: how changes of them are written, what they do, and how rights are shown.

    changes := change (',' change)*
    change  := who* (sign what*)+ | sign digit+

A change without anybody in it is for all, but for what is taken away from new files.  In a
directory the rights of owner and group to lend their names are only changed where they are named.
-/
import AliasShell.Text.Bytes

namespace AliasShell.Rights

/-! ### Changes -/

/-- What a change does with the rights that it names. -/
inductive Sign where
  | add
  | take
  | set
  deriving Repr, DecidableEq

/-- The rights that a change names. -/
inductive Named where
  | these (bits : Nat)
  /-- these, and the right to run what somebody may run or look into -/
  | running (bits : Nat)
  /-- those that this part of the rights has -/
  | like (bits : Nat)
  deriving Repr, DecidableEq

/-- One change of rights. -/
structure Change where
  /-- The bits of those that it is for; 0 for all. -/
  who : Nat
  sign : Sign
  named : Named
  /-- The bits that are named. -/
  mentioned : Nat
  deriving Repr, DecidableEq

/-- The bits of those that letters name. -/
def whoBits (c : Char) : Nat :=
  if c = 'u' then 0o4700 else if c = 'g' then 0o2070 else if c = 'o' then 0o1007 else 0o7777

/-- The bits of a letter for a right. -/
def whatBits (c : Char) : Nat :=
  if c = 'r' then 0o444
  else if c = 'w' then 0o222
  else if c = 'x' then 0o111
  else if c = 's' then 0o6000
  else if c = 't' then 0o1000
  else 0

/-- A sign. -/
def sign? (c : Char) : Option Sign :=
  if c = '+' then some .add else if c = '-' then some .take else if c = '=' then some .set else none

/-- The number of digits in eighths. -/
def octal? (t : Text) : Option Nat :=
  if !t.isEmpty && t.all fun c => '0' ≤ c && c ≤ '7' then
    some (t.foldl (fun n c => 8 * n + (c.toNat - '0'.toNat)) 0)
  else none

/-- The rights that stand behind a sign, and the text after them. -/
def named (t : Text) : Named × Nat × Text :=
  match t with
  | 'u' :: rest => (.like 0o700, 0o777, rest)
  | 'g' :: rest => (.like 0o070, 0o777, rest)
  | 'o' :: rest => (.like 0o007, 0o777, rest)
  | t =>
    let letters := t.takeWhile "rwxXst".toList.contains
    let bits := letters.foldl (fun n c => n ||| whatBits c) 0
    (if letters.contains 'X' then .running bits else .these bits, bits, t.drop letters.length)

/-- The changes for some, sign after sign; at most `n`. -/
def changesFor (who : Nat) : Nat → Text → Option (List Change)
  | 0, _ => none
  | _, [] => none
  | n + 1, c :: cs =>
    match sign? c with
    | none => none
    | some sign =>
      match octal? cs with
      | some bits =>
        if who = 0 ∧ bits ≤ 0o7777 then some [⟨0o7777, sign, .these bits, 0o7777⟩] else none
      | none =>
        let (what, bits, rest) := named cs
        let mentioned := if who = 0 then bits else who &&& bits
        let change : Change := ⟨who, sign, what, mentioned⟩
        if rest.isEmpty then some [change] else (changesFor who n rest).map (change :: ·)

/-- The changes that a text names. -/
def ofText? (t : Text) : Option (List Change) :=
  match octal? t with
  | some n =>
    if n ≤ 0o7777 then
      let mentioned := if t.length < 5 then (n &&& 0o6000) ||| 0o1777 else 0o7777
      some [⟨0o7777, .set, .these n, mentioned⟩]
    else none
  | none =>
    ((t.cut (· == ',')).mapM fun piece =>
      let who := piece.takeWhile "ugoa".toList.contains
      changesFor (who.foldl (fun n c => n ||| whoBits c) 0) piece.length
        (piece.drop who.length)).map List.flatten

/-- Rights without some of them. -/
def without (mode bits : Nat) : Nat := mode &&& (0o7777 ^^^ (bits &&& 0o7777))

/-- The rights that a change leaves alone in a directory, where it does not name them. -/
def Change.omits (isDir : Bool) (c : Change) : Nat :=
  if isDir then without 0o6000 c.mentioned else 0

/-- The rights that a change adds, takes or sets; `mask` is taken away from those for nobody. -/
def Change.granted (isDir : Bool) (mask mode : Nat) (c : Change) : Nat :=
  let spread (bits right : Nat) : Nat := if bits &&& right = 0 then 0 else right
  let value := match c.named with
    | .these bits => bits
    | .running bits => if isDir || mode &&& 0o111 != 0 then bits ||| 0o111 else bits
    | .like part =>
      let own := mode &&& part
      spread own 0o444 ||| spread own 0o222 ||| spread own 0o111
  without (if c.who = 0 then without value mask else value &&& c.who) (c.omits isDir)

/-- The rights that a setting leaves alone. -/
def Change.keeps (isDir : Bool) (c : Change) : Nat :=
  (if c.who = 0 then 0 else without 0o7777 c.who) ||| c.omits isDir

/-- The rights after one change. -/
def apply (isDir : Bool) (mask mode : Nat) (c : Change) : Nat :=
  let value := c.granted isDir mask mode
  match c.sign with
  | .add => mode ||| value
  | .take => without mode value
  | .set => (mode &&& c.keeps isDir) ||| value

/-- The rights that changes have a say in. -/
def decided (isDir : Bool) (mask : Nat) : List Change → Nat → Nat
  | [], _ => 0
  | c :: cs, mode =>
    (match c.sign with
      | .set => without 0o7777 (c.keeps isDir)
      | _ => c.granted isDir mask mode) ||| decided isDir mask cs (apply isDir mask mode c)

/-- The rights after changes. -/
def adjust (isDir : Bool) (mask : Nat) (changes : List Change) (mode : Nat) : Nat :=
  changes.foldl (apply isDir mask) mode

/-! ### Showing -/

/-- One part of the rights; the third letter also tells of a right beyond the nine. -/
def partText (bits : Nat) (special : Bool) (letter : Char) : Text :=
  [if bits / 4 % 2 = 1 then 'r' else '-', if bits / 2 % 2 = 1 then 'w' else '-',
    match bits % 2 == 1, special with
    | true, true => letter
    | true, false => 'x'
    | false, true => letter.toUpper
    | false, false => '-']

/-- Rights as nine letters. -/
def text (mode : Nat) : Text :=
  partText (mode / 64 % 8) (mode / 2048 % 2 = 1) 's' ++
    partText (mode / 8 % 8) (mode / 1024 % 2 = 1) 's' ++
    partText (mode % 8) (mode / 512 % 2 = 1) 't'

/-- Rights in eighths, in at least so many digits. -/
def digits (width mode : Nat) : Text :=
  let ds := Nat.toDigits 8 mode
  List.replicate (width - ds.length) '0' ++ ds

example : text 0o640 = "rw-r-----".toList := by decide +kernel
example : text 0o3700 = "rwx--S--T".toList := by decide +kernel
example : (ofText? "u+x,go-r".toList).map (adjust false 0o22 · 0o640) = some 0o700 := by
  decide +kernel

end AliasShell.Rights
