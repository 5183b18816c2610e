/-
The alias table as a map in the order of insertion.

A table is a list of entries, and nothing in the list says that a name has only one of them or that
its place tells when it came in.  Both are so because of the calls that have made the table, and so
what a table holds is said here of calls alone.  A name has the text that it was given last, unless
it was dropped after that: `Given`.  It came in with a call that found no such name, and after which
it was never dropped: `Introduced`.

One more call changes what the calls say of a name in one way, whatever the calls: `given_concat`,
`introduced_concat`.  `Records.perform` is the step, that a table which records the calls is led by
one more call to a table which records that one, too, and `records_ofCalls` the run.  No other table
does: `Records.unique`.
-/
import AliasShell.Aliases
import Mathlib.Data.List.Induction
import Mathlib.Data.List.Nodup

namespace AliasShell

namespace Aliases

/-! ### Calls -/

/-- A call that changes a table. -/
inductive Call where
  | add (name text : Text)
  | remove (name : Text)
  | clear
  deriving Repr, DecidableEq

namespace Call

/-- The table when the call is done. -/
def perform (t : Aliases) : Call → Aliases
  | .add name text => t.add name text
  | .remove name => (t.takeOut name).2
  | .clear => empty

/-- The call gives `name` a text. -/
def Gives (c : Call) (name : Text) : Prop := ∃ text, c = .add name text

/-- The call leaves no alias `name`. -/
def Drops (c : Call) (name : Text) : Prop := c = .remove name ∨ c = .clear

section

variable {name other text : Text}

theorem gives_add : (add name text).Gives other ↔ other = name := by
  simp [Gives, eq_comm]

theorem not_gives_remove : ¬ (remove name).Gives other := by
  rintro ⟨_, ⟨⟩⟩

theorem not_drops_add : ¬ (add name text).Drops other := by
  rintro (⟨⟨⟩⟩ | ⟨⟨⟩⟩)

theorem drops_remove : (remove name).Drops other ↔ other = name := by
  simp [Drops, eq_comm]

theorem drops_clear : clear.Drops other := Or.inr rfl

end

end Call

/-- The table that calls make of an empty one. -/
def ofCalls (calls : List Call) : Aliases := calls.foldl Call.perform empty

theorem ofCalls_concat (calls : List Call) (c : Call) :
    ofCalls (calls ++ [c]) = c.perform (ofCalls calls) := by
  rw [ofCalls, List.foldl_append]
  rfl

/-! ### What calls say of a name -/

/-- `text` is what `name` was given last, and `name` was not dropped after that. -/
def Given (calls : List Call) (name text : Text) : Prop :=
  ∃ before later, calls = before ++ .add name text :: later ∧
    ∀ c ∈ later, ¬ c.Gives name ∧ ¬ c.Drops name

/-- The call at `place` has brought `name` in: there was none before it, and it was not dropped
after that. -/
def Introduced (calls : List Call) (name : Text) (place : Nat) : Prop :=
  ∃ before text later, calls = before ++ .add name text :: later ∧ before.length = place ∧
    (∀ old, ¬ Given before name old) ∧ ∀ c ∈ later, ¬ c.Drops name

/-- `m` came in before `n`. -/
def Earlier (calls : List Call) (m n : Text) : Prop :=
  ∃ i j, Introduced calls m i ∧ Introduced calls n j ∧ i < j

/-- An element of a list and one more is the last one, or it stands in the list. -/
theorem concat_eq_append_cons_iff {α : Type} {xs before later : List α} {x y : α} :
    xs ++ [x] = before ++ y :: later ↔
      xs = before ∧ x = y ∧ later = [] ∨
        ∃ rest, later = rest ++ [x] ∧ xs = before ++ y :: rest := by
  rcases later.eq_nil_or_concat' with rfl | ⟨rest, z, rfl⟩
  · rw [List.append_singleton_inj]
    simp
  · rw [← List.cons_append, ← List.append_assoc, List.append_singleton_inj]
    constructor
    · rintro ⟨hxs, rfl⟩
      exact Or.inr ⟨rest, rfl, hxs⟩
    · rintro (⟨-, -, hnil⟩ | ⟨rest', hrest, hxs⟩)
      · exact absurd hnil (List.append_ne_nil_of_right_ne_nil rest (List.cons_ne_nil z []))
      · obtain ⟨rfl, rfl⟩ := List.append_singleton_inj.mp hrest
        exact ⟨hxs, rfl⟩

section

variable {calls : List Call} {c : Call} {m n name text : Text} {place place' : Nat}

theorem not_given_nil : ¬ Given [] name text := by
  rintro ⟨before, later, h, -⟩
  cases before <;> cases h

/-- The texts after one more call. -/
theorem given_concat : Given (calls ++ [c]) name text ↔
    c = .add name text ∨ Given calls name text ∧ ¬ c.Gives name ∧ ¬ c.Drops name := by
  constructor
  · rintro ⟨before, later, hcalls, hlater⟩
    rcases concat_eq_append_cons_iff.mp hcalls with ⟨-, hc, -⟩ | ⟨rest, rfl, hrest⟩
    · exact Or.inl hc
    · obtain ⟨hkept, hc⟩ := List.forall_mem_append.mp hlater
      exact Or.inr ⟨⟨before, rest, hrest, hkept⟩, hc c (List.mem_singleton_self c)⟩
  · rintro (rfl | ⟨⟨before, later, rfl, hlater⟩, hc⟩)
    · exact ⟨calls, [], rfl, List.forall_mem_nil _⟩
    · exact ⟨before, later ++ [c], by simp,
        List.forall_mem_append.mpr ⟨hlater, List.forall_mem_singleton.mpr hc⟩⟩

theorem not_introduced_nil : ¬ Introduced [] name place := by
  rintro ⟨before, text, later, h, -⟩
  cases before <;> cases h

/-- The names that have come in after one more call, and where. -/
theorem introduced_concat : Introduced (calls ++ [c]) name place ↔
    Introduced calls name place ∧ ¬ c.Drops name ∨
      c.Gives name ∧ calls.length = place ∧ ∀ old, ¬ Given calls name old := by
  constructor
  · rintro ⟨before, text, later, hcalls, hplace, hnew, hlater⟩
    rcases concat_eq_append_cons_iff.mp hcalls with ⟨rfl, hc, -⟩ | ⟨rest, rfl, hrest⟩
    · exact Or.inr ⟨⟨text, hc⟩, hplace, hnew⟩
    · obtain ⟨hkept, hc⟩ := List.forall_mem_append.mp hlater
      exact Or.inl ⟨⟨before, text, rest, hrest, hplace, hnew, hkept⟩,
        hc c (List.mem_singleton_self c)⟩
  · rintro (⟨⟨before, text, later, rfl, hplace, hnew, hlater⟩, hc⟩ | ⟨⟨text, rfl⟩, hplace, hnew⟩)
    · exact ⟨before, text, later ++ [c], by simp, hplace, hnew,
        List.forall_mem_append.mpr ⟨hlater, List.forall_mem_singleton.mpr hc⟩⟩
    · exact ⟨calls, text, [], rfl, hplace, hnew, List.forall_mem_nil _⟩

theorem Introduced.lt_length (h : Introduced calls name place) : place < calls.length := by
  obtain ⟨before, text, later, rfl, rfl, -⟩ := h
  simp

/-- What has come in has a text, and nothing else has. -/
theorem exists_introduced_iff :
    (∃ place, Introduced calls name place) ↔ ∃ text, Given calls name text := by
  induction calls using List.reverseRecOn with
  | nil =>
      exact iff_of_false (fun ⟨_, h⟩ => not_introduced_nil h) (fun ⟨_, h⟩ => not_given_nil h)
  | append_singleton calls c ih =>
      constructor
      · rintro ⟨place, h⟩
        by_cases hgives : c.Gives name
        · obtain ⟨text, hc⟩ := hgives
          exact ⟨text, given_concat.mpr (Or.inl hc)⟩
        · rcases introduced_concat.mp h with ⟨h, hc⟩ | ⟨hc, -⟩
          · obtain ⟨text, htext⟩ := ih.mp ⟨place, h⟩
            exact ⟨text, given_concat.mpr (Or.inr ⟨htext, hgives, hc⟩)⟩
          · exact absurd hc hgives
      · rintro ⟨text, h⟩
        rcases given_concat.mp h with rfl | ⟨h, -, hc⟩
        · -- the name comes in with this call, unless it is there already
          by_cases hold : ∃ place, Introduced calls name place
          · obtain ⟨place, hplace⟩ := hold
            exact ⟨place, introduced_concat.mpr (Or.inl ⟨hplace, Call.not_drops_add⟩)⟩
          · rw [ih, not_exists] at hold
            exact ⟨calls.length, introduced_concat.mpr (Or.inr ⟨⟨text, rfl⟩, rfl, hold⟩)⟩
        · obtain ⟨place, hplace⟩ := ih.mpr ⟨text, h⟩
          exact ⟨place, introduced_concat.mpr (Or.inl ⟨hplace, hc⟩)⟩

theorem Introduced.unique (h : Introduced calls name place) (h' : Introduced calls name place') :
    place = place' := by
  induction calls using List.reverseRecOn with
  | nil => exact absurd h not_introduced_nil
  | append_singleton calls c ih =>
      -- a name that is there already is not brought in by the last call
      have hone : ∀ {i}, Introduced calls name i → ¬ ∀ old, ¬ Given calls name old := by
        intro i hi
        rw [← not_exists, ← exists_introduced_iff]
        exact not_not_intro ⟨i, hi⟩
      rcases introduced_concat.mp h with ⟨h, -⟩ | ⟨-, h, hnew⟩ <;>
        rcases introduced_concat.mp h' with ⟨h', -⟩ | ⟨-, h', hnew'⟩
      · exact ih h h'
      · exact absurd hnew' (hone h)
      · exact absurd hnew (hone h')
      · exact h.symm.trans h'

theorem Earlier.asymm (h : Earlier calls m n) : ¬ Earlier calls n m := by
  obtain ⟨i, j, hm, hn, hlt⟩ := h
  rintro ⟨j', i', hn', hm', hlt'⟩
  obtain rfl := hm.unique hm'
  obtain rfl := hn.unique hn'
  exact Nat.lt_asymm hlt hlt'

theorem Earlier.concat (h : Earlier calls m n) (hm : ¬ c.Drops m) (hn : ¬ c.Drops n) :
    Earlier (calls ++ [c]) m n := by
  obtain ⟨i, j, hi, hj, hlt⟩ := h
  exact ⟨i, j, introduced_concat.mpr (Or.inl ⟨hi, hm⟩), introduced_concat.mpr (Or.inl ⟨hj, hn⟩),
    hlt⟩

end

/-! ### The table of the calls -/

/-- The table says of names what the calls say of them. -/
structure Records (calls : List Call) (t : Aliases) : Prop where
  /-- a name has the text that it was given last -/
  text : ∀ name text, t.get? name = some text ↔ Given calls name text
  /-- and the names stand in the order in which they came in -/
  ordered : t.names.Pairwise (Earlier calls)

/-- The answers of a table go together. -/
structure Agrees (t : Aliases) : Prop where
  /-- no name is listed twice -/
  distinct : t.names.Nodup
  /-- a name is there if it has a text -/
  contains_eq : ∀ name, t.contains name = (t.get? name).isSome
  /-- and then it is listed -/
  contains_iff : ∀ name, t.contains name = true ↔ name ∈ t.names
  /-- the entries are the listed names with the texts that are found -/
  entries_eq : t.entries.map (fun e => (e.1, some e.2)) = t.names.map fun n => (n, t.get? n)
  /-- as many as there are -/
  size_eq : t.size = t.names.length
  isEmpty_iff_size : t.isEmpty = true ↔ t.size = 0
  isEmpty_iff_get? : t.isEmpty = true ↔ ∀ name, t.get? name = none

section

variable {calls : List Call} {t t' : Aliases} {name : Text}

theorem entries_of_nodup (h : t.names.Nodup) :
    t.entries.map (fun e => (e.1, some e.2)) = t.names.map fun n => (n, t.get? n) := by
  rw [names, List.map_map]
  exact List.map_congr_left fun e he => Prod.ext rfl (get?_of_mem h he).symm

theorem agrees_of_nodup (h : t.names.Nodup) : t.Agrees where
  distinct := h
  contains_eq _ := rfl
  contains_iff _ := Aliases.contains_iff
  entries_eq := entries_of_nodup h
  size_eq := by
    rw [names, List.length_map]
    rfl
  isEmpty_iff_size := by rw [isEmpty, size, List.isEmpty_iff, List.length_eq_zero_iff]
  isEmpty_iff_get? := by
    have hnames : t.isEmpty = true ↔ t.names = [] := by
      rw [isEmpty, List.isEmpty_iff, names, List.map_eq_nil_iff]
    rw [hnames, List.eq_nil_iff_forall_not_mem]
    refine forall_congr' fun name => ?_
    rw [← Aliases.contains_iff, contains, Option.not_isSome_iff_eq_none]

namespace Records

theorem nodup (h : Records calls t) : t.names.Nodup := by
  refine h.ordered.imp ?_
  rintro n _ hlt rfl
  exact hlt.asymm hlt

theorem mem_names (h : Records calls t) :
    name ∈ t.names ↔ ∃ place, Introduced calls name place := by
  rw [exists_introduced_iff, ← Aliases.contains_iff, contains, Option.isSome_iff_exists]
  exact exists_congr (h.text name)

/-- **There is one table that records given calls.**  Two of them list the same names in the same
order, and find the same texts for them. -/
theorem unique (h : Records calls t) (h' : Records calls t') : t = t' := by
  have hperm : t.names.Perm t'.names :=
    (List.perm_ext_iff_of_nodup h.nodup h'.nodup).mpr fun n => by rw [h.mem_names, h'.mem_names]
  have hnames : t.names = t'.names :=
    hperm.eq_of_pairwise (fun m n _ _ hlt hgt => absurd hgt hlt.asymm) h.ordered h'.ordered
  have hget : t.get? = t'.get? := funext fun n => Option.ext fun x => by rw [h.text, h'.text]
  have hentries := entries_of_nodup h.nodup
  rw [hnames, hget, ← entries_of_nodup h'.nodup] at hentries
  have hinjective : Function.Injective fun e : Text × Text => (e.1, some e.2) := by
    rintro ⟨m, x⟩ ⟨n, y⟩ hxy
    simpa using hxy
  exact congrArg Aliases.mk (List.map_injective_iff.mpr hinjective hentries)

theorem add (h : Records calls t) (name text : Text) :
    Records (calls ++ [.add name text]) (t.add name text) where
  text n x := by
    rw [get?_add, given_concat, Call.gives_add]
    by_cases hn : n = name
    · simp [hn]
    · simp [hn, Ne.symm hn, h.text, Call.not_drops_add]
  ordered := by
    have hold : t.names.Pairwise (Earlier (calls ++ [.add name text])) :=
      h.ordered.imp fun hlt => hlt.concat Call.not_drops_add Call.not_drops_add
    rw [names_add]
    split
    · exact hold
    · next hnew =>
        rw [h.mem_names, exists_introduced_iff, not_exists] at hnew
        refine List.pairwise_append.mpr ⟨hold, List.pairwise_singleton _ _, fun m hm n hn => ?_⟩
        obtain rfl := List.mem_singleton.mp hn
        obtain ⟨i, hi⟩ := h.mem_names.mp hm
        exact ⟨i, calls.length, introduced_concat.mpr (Or.inl ⟨hi, Call.not_drops_add⟩),
          introduced_concat.mpr (Or.inr ⟨⟨text, rfl⟩, rfl, hnew⟩), hi.lt_length⟩

theorem remove (h : Records calls t) (name : Text) :
    Records (calls ++ [.remove name]) (t.remove name) where
  text n x := by
    rw [given_concat, Call.drops_remove]
    by_cases hn : n = name
    · simp [hn, get?_remove_self h.nodup]
    · simp [hn, get?_remove_of_ne hn, h.text, Call.not_gives_remove]
  ordered := by
    have hkept : ∀ {n}, n ∈ t.names.erase name → ¬ (Call.remove name).Drops n := fun hn =>
      mt Call.drops_remove.mp (h.nodup.mem_erase_iff.mp hn).1
    rw [names_remove]
    exact (h.ordered.sublist List.erase_sublist).imp_of_mem fun hm hn hlt =>
      hlt.concat (hkept hm) (hkept hn)

theorem clear (calls : List Call) : Records (calls ++ [.clear]) empty where
  text n x := by
    rw [given_concat]
    simp [Call.drops_clear, get?, empty]
  ordered := List.Pairwise.nil

/-- **One more call leads to the table that records it, too.** -/
theorem perform (h : Records calls t) (c : Call) : Records (calls ++ [c]) (c.perform t) := by
  cases c with
  | add name text => exact h.add name text
  | remove name =>
      rw [Call.perform, takeOut_eq]
      exact h.remove name
  | clear => exact Records.clear calls

end Records

end

/-- **The table of any calls records them.** -/
theorem records_ofCalls (calls : List Call) : Records calls (ofCalls calls) := by
  induction calls using List.reverseRecOn with
  | nil =>
      exact ⟨fun n x => iff_of_false (by simp [ofCalls, get?, empty]) not_given_nil,
        List.Pairwise.nil⟩
  | append_singleton calls c ih =>
      rw [ofCalls_concat]
      exact ih.perform c

/-- **The alias table is a map in the order of insertion.**  Whatever calls have been made on an
empty table, there is one table that records them, and it is the one that they have led to.  So a
name is found with the text that it was given last, if it was not dropped after that, and the names
stand in the order of the calls that brought them in, of which each listed name has one.  All other
answers agree with these.  A name that is added again keeps its place, and one that is taken out and
added again is the last.  Taking out gives the text that was found, and leaves all other entries in
their order. -/
theorem insertion_ordered (calls : List Call) :
    let t := ofCalls calls
    (∀ t', Records calls t' ↔ t' = t) ∧ t.Agrees ∧
      (∀ name, name ∈ t.names ↔ ∃! place, Introduced calls name place) ∧
      (∀ name text, (ofCalls (calls ++ [.add name text])).names =
        if name ∈ t.names then t.names else t.names ++ [name]) ∧
      (∀ name, t.takeOut name = (t.get? name, ofCalls (calls ++ [.remove name])) ∧
        (ofCalls (calls ++ [.remove name])).entries = t.entries.filter (·.1 != name)) ∧
      ∀ name text, (ofCalls (calls ++ [.remove name, .add name text])).names =
        t.names.erase name ++ [name] := by
  intro t
  have ht : Records calls t := records_ofCalls calls
  have hadded : ∀ name text, ofCalls (calls ++ [.add name text]) = t.add name text :=
    fun name text => ofCalls_concat calls (.add name text)
  have hremoved : ∀ name, ofCalls (calls ++ [.remove name]) = t.remove name := fun name => by
    rw [ofCalls_concat, Call.perform, takeOut_eq]
  refine ⟨fun t' => ⟨fun h' => h'.unique ht, fun h' => h' ▸ ht⟩, agrees_of_nodup ht.nodup,
    fun name => ?_, fun name text => ?_, fun name => ⟨?_, ?_⟩, fun name text => ?_⟩
  · rw [ht.mem_names]
    exact ⟨fun ⟨place, h⟩ => ⟨place, h, fun _ h' => h'.unique h⟩, fun h => h.exists⟩
  · rw [hadded, names_add]
  · rw [hremoved, takeOut_eq]
  · rw [hremoved, entries_remove ht.nodup]
  · have hsplit : calls ++ [.remove name, .add name text] =
        calls ++ [.remove name] ++ [.add name text] := by simp
    rw [hsplit, ofCalls_concat, hremoved, Call.perform, names_add, names_remove,
      if_neg ht.nodup.not_mem_erase]

/-- `zz` is given another text in its place, and `aa` comes back at the end. -/
example : ofCalls [.add "zz" "one", .add "aa" "two", .add "mm" "three", .add "zz" "four",
    .remove "aa", .add "aa" "five"] = ⟨[("zz", "four"), ("mm", "three"), ("aa", "five")]⟩ := by
  decide

end Aliases

end AliasShell
