/-
Tables: values under names, with an order in which the names come.

The names lie in rows, and what was asked for last lies in front in its row.  Which row that is, is
decided by a sum over the bytes of the name.  Names that are whole numbers lie in rows of their own
as well, where the number decides; as long as a table was only asked for numbers, there are no other
rows.  Numbers in a row that was filled at once stay in sequence until something else is asked for.
-/
import Std.Data.HashMap
import AliasShell.Machine.Tools.Records.Value

namespace AliasShell.Tools.Records

/-- What a value is asked for by. -/
inductive Key where
  | whole (i : Int)
  | name (t : Text)
  deriving Repr, DecidableEq

/-- The name of a key. -/
def Key.text : Key → Text
  | .whole i => Integer.text i
  | .name t => t

/-- A table. -/
structure Table where
  values : Std.HashMap Text Value := {}
  /-- the rows of names -/
  named : Array (List Text) := Array.replicate 64 []
  /-- the rows of whole numbers -/
  numbered : Array (List Int) := Array.replicate 64 []
  /-- all names lie in rows -/
  hasNames : Bool := false
  /-- how many values were put in at once, under the numbers from 1 on, if nothing else was done -/
  sequence : Nat := 0

namespace Table

/-- How many values there are. -/
def size (t : Table) : Nat := t.values.size

/-- The sum that decides on the row of a name. -/
def mix (name : Text) : UInt32 :=
  name.foldl (fun h c => (h ^^^ UInt32.ofNat c.toNat) * 16777619) 2166136261

/-- The row of a name. -/
def rowOf (t : Table) (name : Text) : Nat := (mix name).toNat % t.named.size

/-- The row of a whole number. -/
def rowOfNumber (t : Table) (i : Int) : Nat := (i % t.numbered.size).toNat

/-- A list with an element in front that may lie further back. -/
def toFront {α : Type} [BEq α] (x : α) (l : List α) : List α := x :: l.erase x

/-- The rows of a table whose values were put in at once. -/
def spread (t : Table) : Table :=
  if t.sequence = 0 then t
  else
    let count := t.sequence
    let rec size (n : Nat) : Nat → Nat
      | 0 => n
      | fuel + 1 => if 12 * n < count then size (2 * n) fuel else n
    let rows := size 64 64
    let numbered := (List.range count).foldl
      (fun rows i => rows.modify ((i + 1) % rows.size) ((i + 1 : Int) :: ·))
      (Array.replicate rows [])
    { t with numbered, named := Array.replicate rows [], sequence := 0 }

/-- The table with all names in rows. -/
def withNames (t : Table) : Table :=
  if t.hasNames then t
  else
    let t := t.spread
    let named := t.numbered.foldl
      (fun rows row => row.foldl
        (fun rows i =>
          let name := Integer.text i
          rows.modify (t.rowOf name) (name :: ·)) rows) t.named
    { t with named, hasNames := true }

/-- The table with twice as many rows, where these are too long for one value more. -/
def roomy (t : Table) : Table :=
  if t.size < 12 * t.named.size then t
  else
    let rows := 2 * t.named.size
    let deal {α : Type} (rowOf : α → Nat) (old : Array (List α)) : Array (List α) :=
      old.foldl (fun rows row => row.reverse.foldl
        (fun rows x => rows.modify (rowOf x) (x :: ·)) rows) (Array.replicate rows [])
    { t with
      named := deal (fun name => (mix name).toNat % rows) t.named
      numbered := deal (fun (i : Int) => (i % rows).toNat) t.numbered }

/-- The table when a name was asked for; one that is new is put in where that is wanted. -/
def askName (t : Table) (name : Text) (creates : Bool) : Table :=
  let t := t.withNames
  if t.values.contains name then
    let row := t.rowOf name
    { t with named := t.named.modify row (toFront name) }
  else if creates then
    let t := t.roomy
    let row := t.rowOf name
    { t with
      named := t.named.modify row (name :: ·)
      values := t.values.insert name .unset }
  else t

/-- The table when a whole number was asked for. -/
def askWhole (t : Table) (i : Int) (creates : Bool) : Table :=
  if t.sequence != 0 ∧ 1 ≤ i ∧ i ≤ t.sequence then t
  else
    let t := t.spread
    let row := t.rowOfNumber i
    if (t.numbered.getD row []).contains i then
      { t with numbered := t.numbered.modify row (toFront i) }
    else if t.hasNames then
      let name := Integer.text i
      if creates || t.values.contains name then
        let t := t.askName name creates
        let row := t.rowOfNumber i
        { t with numbered := t.numbered.modify row (i :: ·) }
      else t
    else if creates then
      let t := t.roomy
      let row := t.rowOfNumber i
      { t with
        numbered := t.numbered.modify row (i :: ·)
        values := t.values.insert (Integer.text i) .unset }
    else t

/-- The table when a key was asked for. -/
def ask (t : Table) (k : Key) (creates : Bool) : Table :=
  if t.size = 0 ∧ !creates then t
  else
    match k with
    | .whole i => t.askWhole i creates
    | .name name => t.askName name creates

/-- The value of a key that is in the table. -/
def get? (t : Table) (k : Key) : Option Value := t.values[k.text]?

/-- The table with a value under a key. -/
def put (t : Table) (k : Key) (v : Value) : Table :=
  let t := t.ask k true
  { t with values := t.values.insert k.text v }

/-- The table without a key. -/
def erase (t : Table) (k : Key) : Table :=
  if !t.values.contains k.text then t
  else if t.size = 1 then {}
  else
    let t := (t.spread).ask k false
    let name := k.text
    let t := match Integer.ofText? name with
      | some i =>
        if Integer.text i = name then
          let row := t.rowOfNumber i
          { t with numbered := t.numbered.modify row (·.erase i) }
        else t
      | none => t
    let t :=
      if t.hasNames then
        let row := t.rowOf name
        { t with named := t.named.modify row (·.erase name) }
      else t
    { t with values := t.values.erase name }

/-- The table of values under the numbers from 1 on. -/
def ofList (vs : List Value) : Table :=
  let values := (List.range vs.length).zip vs |>.foldl
    (fun (m : Std.HashMap Text Value) (i, v) => m.insert (Integer.digits (i + 1)) v) {}
  { values, sequence := vs.length }

/-- The names in their order, and the table with all of them in rows. -/
def names (t : Table) : List Text × Table :=
  if t.size = 0 then ([], t)
  else
    let t := t.withNames
    (t.named.toList.flatten, t)

end Table

end AliasShell.Tools.Records
