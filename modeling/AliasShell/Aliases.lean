/-
The alias table: names with the text that stands for them, in the order in which they came.

Whatever is asked of a name, the first entry with it answers, and what is done to a name is done to
that entry.  `names_add`, `get?_add`, `names_remove`, `get?_remove_of_ne` and `get?_remove_self` say
what that makes of the names and of their texts.
-/
import AliasShell.Text.Basic

namespace AliasShell

/-- Aliases in the order in which their names were added. -/
structure Aliases where
  entries : List (Text × Text)
  deriving Repr, DecidableEq

namespace Aliases

/-- The table without aliases. -/
def empty : Aliases := ⟨[]⟩

/-- `name` with its text: in the place where the name stands already, or at the end. -/
def put (name text : Text) : List (Text × Text) → List (Text × Text)
  | [] => [(name, text)]
  | e :: es => if e.1 = name then (name, text) :: es else e :: put name text es

/-- The table with `text` under `name`. -/
def add (t : Aliases) (name text : Text) : Aliases := ⟨put name text t.entries⟩

/-- The text under `name`. -/
def get? (t : Aliases) (name : Text) : Option Text := t.entries.lookup name

/-- The table without `name`. -/
def remove (t : Aliases) (name : Text) : Aliases := ⟨t.entries.eraseP (·.1 == name)⟩

/-- Takes `name` out: its text, if it has one, and the table without it. -/
def takeOut (t : Aliases) (name : Text) : Option Text × Aliases :=
  match t.entries.findIdx? (·.1 == name) with
  | none => (none, t)
  | some i => (t.entries[i]?.map (·.2), ⟨t.entries.eraseIdx i⟩)

/-- `name` has a text. -/
def contains (t : Aliases) (name : Text) : Bool := (t.get? name).isSome

/-- The names in order. -/
def names (t : Aliases) : List Text := t.entries.map (·.1)

/-- The number of aliases. -/
def size (t : Aliases) : Nat := t.entries.length

/-- There are no aliases. -/
def isEmpty (t : Aliases) : Bool := t.entries.isEmpty

/-- The table with these added one after another. -/
def ofList (es : List (Text × Text)) : Aliases := es.foldl (fun t e => t.add e.1 e.2) empty

/-! ### Entries -/

theorem put_of_not_mem {name text : Text} {es : List (Text × Text)}
    (h : name ∉ es.map (·.1)) : put name text es = es ++ [(name, text)] := by
  induction es with
  | nil => rfl
  | cons e es ih =>
      rw [List.map_cons, List.mem_cons, not_or] at h
      rw [put, if_neg (Ne.symm h.1), ih h.2, List.cons_append]

/-- A name that is there already keeps its place. -/
theorem names_put_of_mem {name text : Text} {es : List (Text × Text)}
    (h : name ∈ es.map (·.1)) : (put name text es).map (·.1) = es.map (·.1) := by
  induction es with
  | nil => cases h
  | cons e es ih =>
      rw [put]
      split
      · next he => rw [List.map_cons, List.map_cons, he]
      · next he =>
          have hes : name ∈ es.map (·.1) := by
            rcases List.mem_cons.mp h with rfl | h
            · exact absurd rfl he
            · exact h
          rw [List.map_cons, List.map_cons, ih hes]

theorem mem_put {name text : Text} {es : List (Text × Text)} {e : Text × Text}
    (h : e ∈ put name text es) : e = (name, text) ∨ e ∈ es := by
  induction es with
  | nil => exact Or.inl (List.mem_singleton.mp h)
  | cons d ds ih =>
      rw [put] at h
      split at h
      · rcases List.mem_cons.mp h with rfl | h
        · exact Or.inl rfl
        · exact Or.inr (List.mem_cons_of_mem d h)
      · rcases List.mem_cons.mp h with rfl | h
        · exact Or.inr List.mem_cons_self
        · exact (ih h).imp_right (List.mem_cons_of_mem d)

theorem lookup_cons_eq (e : Text × Text) (es : List (Text × Text)) (name : Text) :
    (e :: es).lookup name = if name = e.1 then some e.2 else es.lookup name := by
  rw [List.lookup_cons]
  split
  · next h => rw [if_pos (beq_iff_eq.mp h)]
  · next h => rw [if_neg (beq_eq_false_iff_ne.mp h)]

theorem lookup_put (name text other : Text) (es : List (Text × Text)) :
    (put name text es).lookup other = if other = name then some text else es.lookup other := by
  induction es with
  | nil => exact lookup_cons_eq (name, text) [] other
  | cons e es ih =>
      rw [put]
      split
      · next he =>
          rw [lookup_cons_eq, lookup_cons_eq, he]
          split <;> rfl
      · next he =>
          rw [lookup_cons_eq, lookup_cons_eq, ih]
          by_cases hother : other = name
          · rw [if_pos hother, if_neg (hother ▸ Ne.symm he), if_pos hother]
          · rw [if_neg hother, if_neg hother]

theorem lookup_eraseP_of_ne {name other : Text} (h : other ≠ name) (es : List (Text × Text)) :
    (es.eraseP (·.1 == name)).lookup other = es.lookup other := by
  induction es with
  | nil => rfl
  | cons e es ih =>
      rw [List.eraseP_cons]
      by_cases he : e.1 = name
      · rw [beq_iff_eq.mpr he, cond_true, lookup_cons_eq, if_neg (he ▸ h)]
      · rw [beq_false_of_ne he, cond_false, lookup_cons_eq, lookup_cons_eq, ih]

/-- Where no name comes twice, there is one entry to erase. -/
theorem eraseP_eq_filter (name : Text) {es : List (Text × Text)} (h : (es.map (·.1)).Nodup) :
    es.eraseP (·.1 == name) = es.filter (·.1 != name) := by
  induction es with
  | nil => rfl
  | cons e es ih =>
      rw [List.map_cons, List.nodup_cons] at h
      by_cases he : e.1 = name
      · have hrest : ∀ d ∈ es, (d.1 != name) = true := fun d hd =>
          bne_iff_ne.mpr fun hs => h.1 (he.trans hs.symm ▸ List.mem_map_of_mem hd)
        rw [List.eraseP_cons, beq_iff_eq.mpr he, cond_true,
          List.filter_cons_of_neg (by simp [he]), List.filter_eq_self.mpr hrest]
      · rw [List.eraseP_cons, beq_false_of_ne he, cond_false,
          List.filter_cons_of_pos (by simp [he]), ih h.2]

/-! ### Names and their texts -/

section

variable {t : Aliases} {name text : Text}

/-- What is found in a table stands in it. -/
theorem mem_of_get? (h : t.get? name = some text) : (name, text) ∈ t.entries := by
  obtain ⟨before, after, hentries, -⟩ := List.lookup_eq_some_iff.mp h
  rw [hentries]
  simp

/-- What stands in a table is found if no name comes twice. -/
theorem get?_of_mem (h : t.names.Nodup) {e : Text × Text} (he : e ∈ t.entries) :
    t.get? e.1 = some e.2 := by
  obtain ⟨before, later, hentries⟩ := List.append_of_mem he
  rw [names, hentries, List.map_append, List.map_cons] at h
  refine List.lookup_eq_some_iff.mpr ⟨before, later, hentries, fun d hd => bne_iff_ne.mpr ?_⟩
  exact fun hs =>
    (List.nodup_append.mp h).2.2 _ (List.mem_map_of_mem hd) _ List.mem_cons_self hs.symm

theorem contains_iff : t.contains name = true ↔ name ∈ t.names := by
  rw [contains, get?, List.lookup_isSome_iff, names, List.mem_map]
  simp only [beq_iff_eq, @eq_comm _ name]

theorem get?_eq_none_of_not_mem (h : name ∉ t.names) : t.get? name = none := by
  rw [← contains_iff, contains, Option.not_isSome_iff_eq_none] at h
  exact h

theorem names_add (t : Aliases) (name text : Text) :
    (t.add name text).names = if name ∈ t.names then t.names else t.names ++ [name] := by
  split
  · next h => exact names_put_of_mem h
  · next h =>
      rw [names, add, put_of_not_mem h, List.map_append]
      rfl

theorem get?_add (t : Aliases) (name text other : Text) :
    (t.add name text).get? other = if other = name then some text else t.get? other :=
  lookup_put name text other t.entries

theorem names_remove (t : Aliases) (name : Text) :
    (t.remove name).names = t.names.erase name := by
  rw [names, names, List.erase_eq_eraseP', List.eraseP_map]
  rfl

theorem entries_remove (h : t.names.Nodup) :
    (t.remove name).entries = t.entries.filter (·.1 != name) := eraseP_eq_filter name h

theorem get?_remove_of_ne {other : Text} (h : other ≠ name) :
    (t.remove name).get? other = t.get? other := lookup_eraseP_of_ne h t.entries

theorem get?_remove_self (h : t.names.Nodup) : (t.remove name).get? name = none := by
  refine get?_eq_none_of_not_mem ?_
  rw [names_remove]
  exact h.not_mem_erase

/-- Taking out finds the text and removes the name. -/
theorem takeOut_eq (t : Aliases) (name : Text) :
    t.takeOut name = (t.get? name, t.remove name) := by
  unfold takeOut
  rw [get?, remove, List.eraseP_eq_eraseIdx]
  split
  · next h =>
      have hnone : t.entries.lookup name = none :=
        List.lookup_eq_none_iff.mpr fun e he => by
          have hother := List.findIdx?_eq_none_iff.mp h e he
          rwa [bne, Bool.not_eq_true', Bool.beq_comm]
      rw [hnone, h]
  · next i h =>
      obtain ⟨hlt, hname, hbefore⟩ := List.findIdx?_eq_some_iff_getElem.mp h
      have hsome : t.entries.lookup name = some t.entries[i].2 := by
        refine List.lookup_eq_some_iff.mpr ⟨t.entries.take i, t.entries.drop (i + 1), ?_, ?_⟩
        · rw [← beq_iff_eq.mp hname, List.getElem_cons_drop, List.take_append_drop]
        · intro e he
          obtain ⟨j, hj, rfl⟩ := List.mem_take_iff_getElem.mp he
          have hother := hbefore j (by omega)
          rwa [bne, Bool.not_eq_true', Bool.beq_comm, Bool.eq_false_iff]
      rw [hsome, h, List.getElem?_eq_getElem hlt]
      rfl

end

end Aliases

end AliasShell
