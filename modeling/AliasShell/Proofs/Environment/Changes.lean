/-
How variables change.

There are two ways: a name gets a value, or it loses the one that it has.  `Change` is
one of them, and `Change.override` says what it makes of entries that are given by name
and value.  A value stands where the name stood, or last.

An environment `Holds` such entries: one of a process in their order, one of a session in
the order of their names.  `Holds.change` is all that there is to a change, and speaks of
bytes, so that entries which are no text are not left out.  Whatever changes were made,
programs inherit what they leave of the first entries, sorted: `Holds.snapshot`.
-/
import AliasShell.Proofs.Environment
import AliasShell.Proofs.Environment.Order
import Mathlib.Data.List.Nodup

namespace AliasShell

/-! ### Entries by name and value -/

section Keys

variable {α β : Type} {vs : List (α × β)} {k : α} {a b : β}

theorem value_unique_of_nodup (hn : (vs.map Prod.fst).Nodup) (ha : (k, a) ∈ vs)
    (hb : (k, b) ∈ vs) : a = b :=
  (Prod.mk.inj (List.inj_on_of_nodup_map hn ha hb rfl)).2

theorem lookup_of_mem [BEq α] [LawfulBEq α] {v : α × β} (hn : (vs.map Prod.fst).Nodup)
    (h : v ∈ vs) : vs.lookup v.1 = some v.2 := by
  cases hlookup : vs.lookup v.1 with
  | none => simpa using List.lookup_eq_none_iff.mp hlookup v h
  | some w =>
      obtain ⟨front, rest, hvs, -⟩ := List.lookup_eq_some_iff.mp hlookup
      have hw : (v.1, w) ∈ vs := by rw [hvs]; simp
      rw [value_unique_of_nodup hn hw h]

theorem filter_key_of_not_mem [BEq α] [LawfulBEq α] (h : k ∉ vs.map Prod.fst) :
    (vs.filter fun v => v.1 != k) = vs := by
  refine List.filter_eq_self.mpr ?_
  intro v hv
  have hne : v.1 ≠ k := fun heq => h (List.mem_map.mpr ⟨v, hv, heq⟩)
  simpa using hne

variable [DecidableEq α]

/-- `b` under `k`: in the place of the first entry for `k`, or at the end. -/
def putFirst {α β : Type} [DecidableEq α] (k : α) (b : β) : List (α × β) → List (α × β)
  | [] => [(k, b)]
  | v :: vs => if v.1 = k then (k, b) :: vs else v :: putFirst k b vs

theorem mem_putFirst_of_ne {v : α × β} (h : v.1 ≠ k) : v ∈ putFirst k b vs ↔ v ∈ vs := by
  have hnew : v ≠ (k, b) := fun heq => h (congrArg Prod.fst heq)
  induction vs with
  | nil => simp [putFirst, hnew]
  | cons w vs ih =>
      rw [putFirst]
      split
      · next heq =>
          have hw : v ≠ w := fun hvw => h (hvw ▸ heq)
          simp [hnew, hw]
      · rw [List.mem_cons, List.mem_cons]
        exact or_congr_right ih

/-- Where no key comes twice, there is the new entry and those for other keys. -/
theorem putFirst_perm [BEq α] [LawfulBEq α] (hn : (vs.map Prod.fst).Nodup) :
    (putFirst k b vs).Perm ((k, b) :: vs.filter fun v => v.1 != k) := by
  induction vs with
  | nil => exact .refl _
  | cons v vs ih =>
      obtain ⟨hv, hvs⟩ := List.nodup_cons.mp hn
      rw [putFirst]
      split
      · next heq =>
          rw [List.filter_cons_of_neg (by simp [heq]), filter_key_of_not_mem (heq ▸ hv)]
      · next hne =>
          rw [List.filter_cons_of_pos (by simpa using hne)]
          exact ((ih hvs).cons v).trans (.swap _ _ _)

end Keys

/-! ### The sides of an entry -/

namespace ProcessEnv

variable {n : Bytes}

theorem entry_eq (n v : Bytes) : entry n v = (n ++ [equals]) ++ v := by
  rw [entry, List.append_assoc, List.singleton_append]

theorem entry_append (n v w : Bytes) : entry n (v ++ w) = entry n v ++ w := by
  rw [entry_eq, entry_eq, List.append_assoc (n ++ [equals])]

theorem eq_of_cutEquals {e v : Bytes} (h : cutEquals e = some (n, v)) :
    e = entry n v ∧ equals ∉ n := by
  induction e generalizing n with
  | nil => cases h
  | cons b bs ih =>
      rw [cutEquals] at h
      split at h
      · next hb =>
          obtain ⟨rfl, rfl⟩ := Prod.mk.inj (Option.some.inj h)
          exact ⟨by rw [hb]; rfl, List.not_mem_nil⟩
      · next hb =>
          obtain ⟨⟨m, w⟩, hbs, hsides⟩ := Option.map_eq_some_iff.mp h
          obtain ⟨rfl, rfl⟩ := Prod.mk.inj hsides
          obtain ⟨rfl, hm⟩ := ih hbs
          refine ⟨rfl, fun hmem => ?_⟩
          rcases List.mem_cons.mp hmem with heq | hmem
          · exact hb heq.symm
          · exact hm hmem

/-- The sides make up the entry; the left one is not empty, and only its first byte can be `=`. -/
theorem eq_of_split? {e v : Bytes} (h : split? e = some (n, v)) :
    e = entry n v ∧ n ≠ [] ∧ equals ∉ n.tail := by
  cases e with
  | nil => cases h
  | cons b bs =>
      obtain ⟨⟨m, w⟩, hbs, hsides⟩ := Option.map_eq_some_iff.mp h
      obtain ⟨rfl, rfl⟩ := Prod.mk.inj hsides
      obtain ⟨rfl, hm⟩ := eq_of_cutEquals hbs
      exact ⟨rfl, List.cons_ne_nil b m, hm⟩

/-- Something is found under the name of an entry. -/
theorem exists_find?_of_mem {e : ProcessEnv} {v : Bytes} (h : entry n v ∈ e.entries) :
    ∃ w, e.find? n = some w := by
  cases hfind : e.entries.find? (isFor n) with
  | none => exact absurd (isFor_entry n v) (List.find?_eq_none.mp hfind _ h)
  | some x => exact ⟨_, by rw [find?, hfind, Option.map_some]⟩

/-- The entry for a name is told by what is found. -/
theorem find?_isFor (e : ProcessEnv) :
    e.entries.find? (isFor n) = (e.find? n).map (entry n) := by
  rw [find?]
  cases hfind : e.entries.find? (isFor n) with
  | none => rfl
  | some x =>
      obtain ⟨v, rfl⟩ := isFor_iff.mp (List.find?_some hfind)
      rw [Option.map_some, Option.map_some, drop_entry]

section

variable (hne : n ≠ []) (hn : equals ∉ n.tail)

include hne hn

/-- An entry is one for a name, which is its left side then, or it has another left side or none. -/
theorem split?_cases (e : Bytes) :
    (isFor n e = true ∧ ∃ v, split? e = some (n, v)) ∨
      isFor n e = false ∧ (split? e = none ∨ ∃ v, split? e = some v ∧ v.1 ≠ n) := by
  cases hfor : isFor n e with
  | true =>
      obtain ⟨v, rfl⟩ := isFor_iff.mp hfor
      exact Or.inl ⟨rfl, v, split?_entry hne hn v⟩
  | false =>
      refine Or.inr ⟨rfl, ?_⟩
      cases hsplit : split? e with
      | none => exact Or.inl rfl
      | some v =>
          refine Or.inr ⟨v, rfl, ?_⟩
          rintro rfl
          rw [(eq_of_split? hsplit).1, isFor_entry] at hfor
          cases hfor

/-- Without the entries for a name, the others are what they were. -/
theorem filterMap_split?_filter (es : List Bytes) :
    (es.filter fun e => !isFor n e).filterMap split? =
      (es.filterMap split?).filter fun v => v.1 != n := by
  induction es with
  | nil => rfl
  | cons e es ih =>
      obtain ⟨hfor, v, hv⟩ | ⟨hfor, hnone | ⟨v, hv, hother⟩⟩ := split?_cases hne hn e
      · rw [List.filter_cons_of_neg (by simp [hfor]), ih, List.filterMap_cons_some hv,
          List.filter_cons_of_neg (by simp)]
      · rw [List.filter_cons_of_pos (by simp [hfor]), List.filterMap_cons_none hnone,
          List.filterMap_cons_none hnone, ih]
      · rw [List.filter_cons_of_pos (by simp [hfor]), List.filterMap_cons_some hv,
          List.filterMap_cons_some hv, ih, List.filter_cons_of_pos (by simpa using hother)]

/-- With a new entry for a name, the sides of the first one for it are the new ones. -/
theorem filterMap_split?_replace (b : Bytes) (es : List Bytes) :
    (replace n (entry n b) es).filterMap split? = putFirst n b (es.filterMap split?) := by
  have hnew : split? (entry n b) = some (n, b) := split?_entry hne hn b
  induction es with
  | nil => exact List.filterMap_cons_some hnew
  | cons e es ih =>
      obtain ⟨hfor, v, hv⟩ | ⟨hfor, hnone | ⟨v, hv, hother⟩⟩ := split?_cases hne hn e
      · rw [replace, if_pos hfor, List.filterMap_cons_some hnew, List.filterMap_cons_some hv,
          putFirst, if_pos rfl]
      · rw [replace, if_neg (by simp [hfor]), List.filterMap_cons_none hnone,
          List.filterMap_cons_none hnone, ih]
      · rw [replace, if_neg (by simp [hfor]), List.filterMap_cons_some hv,
          List.filterMap_cons_some hv, ih, putFirst, if_neg hother]

/-- What is found under a name is the right side of an entry for it. -/
theorem mem_of_find? {e : ProcessEnv} {v : Bytes} (h : e.find? n = some v) :
    (n, v) ∈ e.entries.filterMap split? := by
  obtain ⟨x, hx, hdrop⟩ := Option.map_eq_some_iff.mp h
  obtain ⟨w, rfl⟩ := isFor_iff.mp (List.find?_some hx)
  rw [drop_entry] at hdrop
  exact List.mem_filterMap.mpr ⟨_, List.mem_of_find?_eq_some hx, hdrop ▸ split?_entry hne hn w⟩

end

end ProcessEnv

/-! ### Looking up after a change -/

theorem SortedEnv.lookup_filter {name other : Text} (vs : List (Text × Text)) :
    (vs.filter fun v => v.1 != name).lookup other =
      if other = name then none else vs.lookup other := by
  induction vs with
  | nil => simp
  | cons v vs ih =>
      by_cases hv : v.1 = name
      · rw [List.filter_cons_of_neg (by simp [hv]), ih, List.lookup_cons]
        split
        · rfl
        · next hne => rw [beq_false_of_ne (hv ▸ hne)]
      · rw [List.filter_cons_of_pos (by simpa using hv), List.lookup_cons, List.lookup_cons, ih]
        by_cases hother : other = name
        · rw [if_pos hother, if_pos hother, beq_false_of_ne (hother ▸ Ne.symm hv)]
        · rw [if_neg hother, if_neg hother]

theorem ProcessEnv.find?_filter {name : Text} (hname : Environment.ValidName name) (e : ProcessEnv)
    {other : Text} (hequals : '=' ∉ other) :
    (ProcessEnv.mk (e.entries.filter fun x => !isFor name.encode x)).find? other.encode =
      if other = name then none else e.find? other.encode := by
  have hn : equals ∉ name.encode := Text.equals_not_mem_encode hname.2.1
  have ho : equals ∉ other.encode := Text.equals_not_mem_encode hequals
  rw [find?, List.find?_filter]
  split
  · next heq =>
      rw [List.find?_eq_none.mpr fun x _ => by simp [heq], Option.map_none]
  · next hne =>
      refine congrArg (Option.map _) (congrArg (List.find? · e.entries) (funext fun x => ?_))
      cases hfor : isFor other.encode x with
      | false => simp
      | true =>
          obtain ⟨v, rfl⟩ := isFor_iff.mp hfor
          simp [isFor_other ho hn fun heq => hne (Text.encode_injective heq.symm)]

/-- In its place in the order a variable stands once, with those of other names. -/
theorem SortedEnv.insert_perm_filter {name value : Text} {vs : List (Text × Text)}
    (h : vs.Pairwise fun v w => v.1 < w.1) :
    (insert name value vs).Perm ((name, value) :: vs.filter fun v => v.1 != name) := by
  induction vs with
  | nil => exact .refl _
  | cons v vs ih =>
      obtain ⟨hv, hvs⟩ := List.pairwise_cons.mp h
      have hlater : ∀ {m : Text}, ¬ v.1 < m → m ∉ vs.map Prod.fst := by
        intro m hm hmem
        obtain ⟨w, hw, rfl⟩ := List.mem_map.mp hmem
        exact hm (hv w hw)
      rw [insert]
      split
      · next heq =>
          rw [List.filter_cons_of_neg (by simp [heq]),
            filter_key_of_not_mem (hlater (heq ▸ List.lt_irrefl name))]
      · next hne =>
          rw [List.filter_cons_of_pos (by simpa using hne)]
          split
          · next hlt => rw [filter_key_of_not_mem (hlater (List.lt_asymm hlt))]
          · exact ((ih hvs).cons v).trans (.swap _ _ _)

namespace Environment

section

variable {e : Environment} {name : Text} {b : Bytes}

/-- What is found under a name is inherited. -/
theorem mem_snapshot_of_bytes? (hname : ValidName name) (h : e.bytes? name = some b) :
    (name.encode, b) ∈ e.snapshot := by
  cases e with
  | sorted e =>
      obtain ⟨value, hvalue, rfl⟩ := Option.map_eq_some_iff.mp h
      obtain ⟨front, rest, hvars, -⟩ := List.lookup_eq_some_iff.mp hvalue
      exact List.mem_map.mpr ⟨(name, value), by rw [hvars]; simp, rfl⟩
  | process e =>
      exact List.mem_mergeSort.mpr (ProcessEnv.mem_of_find? (Text.encode_ne_nil hname.1)
        (Text.equals_not_mem_tail hname.2.1) h)

/-- And where no name comes twice, what is inherited under a name is found, be it valid or not. -/
theorem bytes?_of_mem_snapshot (he : e.EachOnce) (h : (name.encode, b) ∈ e.snapshot) :
    e.bytes? name = some b := by
  cases e with
  | sorted e =>
      obtain ⟨v, hv, hentry⟩ := List.mem_map.mp h
      obtain ⟨hname, rfl⟩ := Prod.mk.inj hentry
      obtain rfl : v.1 = name := Text.encode_injective hname
      rw [bytes?, SortedEnv.get?, lookup_of_mem (nodup_of_ascending e.ascending) hv]
      rfl
  | process e =>
      have hmem := List.mem_mergeSort.mp h
      obtain ⟨x, hx, hsplit⟩ := List.mem_filterMap.mp hmem
      obtain ⟨rfl, hne, htail⟩ := ProcessEnv.eq_of_split? hsplit
      obtain ⟨c, hc⟩ := ProcessEnv.exists_find?_of_mem hx
      have hfound : (name.encode, c) ∈ (process e).snapshot :=
        List.mem_mergeSort.mpr (ProcessEnv.mem_of_find? hne htail hc)
      rw [bytes?, hc, value_unique_of_nodup he hfound h]

end

/-! ### One change -/

/-- A change of one variable. -/
inductive Change where
  /-- the name gets the value -/
  | put (name value : Text)
  /-- the name loses its value -/
  | drop (name : Text)
  deriving Repr, DecidableEq

namespace Change

/-- The name of the variable. -/
def name : Change → Text
  | .put name _ => name
  | .drop name => name

/-- The value that it has afterwards. -/
def value? : Change → Option Text
  | .put _ value => some value
  | .drop _ => none

/-- What the change makes of entries: the first one of its name is another, or all are gone. -/
def override : Change → List (Bytes × Bytes) → List (Bytes × Bytes)
  | .put name value, vs => putFirst name.encode value.encode vs
  | .drop name, vs => vs.filter fun v => v.1 != name.encode

variable {c : Change} {vs ws : List (Bytes × Bytes)}

/-- Entries of other names are not touched. -/
theorem mem_override {v : Bytes × Bytes} (h : v.1 ≠ c.name.encode) :
    v ∈ c.override vs ↔ v ∈ vs := by
  cases c with
  | put name value => exact mem_putFirst_of_ne h
  | drop name =>
      have hother : v.1 ≠ name.encode := h
      simp [override, hother]

theorem override_perm (hn : (vs.map Prod.fst).Nodup) (h : vs.Perm ws) :
    (c.override vs).Perm (c.override ws) := by
  cases c with
  | put name value =>
      have hws : (ws.map Prod.fst).Nodup := (h.map Prod.fst).nodup_iff.mp hn
      exact (putFirst_perm hn).trans (((h.filter _).cons _).trans (putFirst_perm hws).symm)
  | drop name => exact h.filter _

/-- A change makes no name come twice. -/
theorem nodup_override (hn : (vs.map Prod.fst).Nodup) : ((c.override vs).map Prod.fst).Nodup := by
  have hrest : ∀ n : Bytes, ((vs.filter fun v => v.1 != n).map Prod.fst).Nodup := by
    intro n
    exact hn.sublist (List.filter_sublist.map _)
  cases c with
  | put name value =>
      refine (((putFirst_perm hn).map Prod.fst).nodup_iff).mpr (List.nodup_cons.mpr ⟨?_, hrest _⟩)
      intro hmem
      obtain ⟨v, hv, heq⟩ := List.mem_map.mp hmem
      have hother := (List.mem_filter.mp hv).2
      simp [heq] at hother
  | drop name => exact hrest _

/-- Entries after changes, the first one first. -/
def overridden (cs : List Change) (vs : List (Bytes × Bytes)) : List (Bytes × Bytes) :=
  cs.foldl (fun vs c => c.override vs) vs

theorem mem_overridden {cs : List Change} {v : Bytes × Bytes}
    (h : ∀ c ∈ cs, v.1 ≠ c.name.encode) : v ∈ overridden cs vs ↔ v ∈ vs := by
  induction cs generalizing vs with
  | nil => exact .rfl
  | cons c cs ih =>
      have hrest : v ∈ overridden cs (c.override vs) ↔ v ∈ c.override vs :=
        ih fun d hd => h d (List.mem_cons_of_mem c hd)
      exact hrest.trans (mem_override (h c List.mem_cons_self))

end Change

/-- The environment with a change, if its name and its value can be such. -/
def change (e : Environment) : Change → Except EnvError Environment
  | .put name value => e.set name value
  | .drop name => e.unset name

section

variable {e e' : Environment} {name value : Text}

/-- What is set is a name with a value, and each kind of environment puts it among its own. -/
theorem set_cases (h : e.set name value = .ok e') :
    ValidName name ∧ ValidValue value ∧
      ((∃ d d' : SortedEnv, e = .sorted d ∧ e' = .sorted d' ∧
          d'.vars = SortedEnv.insert name value d.vars) ∨
        ∃ d : ProcessEnv, e = .process d ∧ e' = .process (d.put name.encode value.encode)) := by
  by_cases hname : ValidName name
  · by_cases hvalue : ValidValue value
    · refine ⟨hname, hvalue, ?_⟩
      cases e with
      | sorted d =>
          rw [set, SortedEnv.set, checking, if_pos hname, if_pos hvalue] at h
          exact Or.inl ⟨d, _, rfl, (Except.ok.inj h).symm, rfl⟩
      | process d =>
          rw [set, ProcessEnv.set, checking, if_pos hname, if_pos hvalue] at h
          exact Or.inr ⟨d, rfl, (Except.ok.inj h).symm⟩
    · cases e <;>
        simp [set, SortedEnv.set, ProcessEnv.set, checking, hname, hvalue, Except.map] at h
  · cases e <;> simp [set, SortedEnv.set, ProcessEnv.set, checking, hname, Except.map] at h

/-- What is removed has a name, and each kind of environment takes it out of its own. -/
theorem unset_cases (h : e.unset name = .ok e') :
    ValidName name ∧
      ((∃ d d' : SortedEnv, e = .sorted d ∧ e' = .sorted d' ∧
          d'.vars = d.vars.filter fun v => v.1 != name) ∨
        ∃ d : ProcessEnv, e = .process d ∧
          e' = .process ⟨d.entries.filter fun x => !ProcessEnv.isFor name.encode x⟩) := by
  by_cases hname : ValidName name
  · refine ⟨hname, ?_⟩
    cases e with
    | sorted d =>
        rw [unset, SortedEnv.unset, checkingName, if_pos hname] at h
        exact Or.inl ⟨d, _, rfl, (Except.ok.inj h).symm, rfl⟩
    | process d =>
        rw [unset, ProcessEnv.unset, checkingName, if_pos hname] at h
        exact Or.inr ⟨d, rfl, (Except.ok.inj h).symm⟩
  · cases e <;>
      simp [unset, SortedEnv.unset, ProcessEnv.unset, checkingName, hname, Except.map] at h

theorem setTo_of_set (h : e.set name value = .ok e') : e.SetTo name value e' := by
  obtain ⟨hname, -, ⟨d, d', rfl, rfl, hvars⟩ | ⟨d, rfl, rfl⟩⟩ := set_cases h
  · exact .sorted d hvars
  · exact .process d hname

theorem bytes?_of_set (h : e.set name value = .ok e') {other : Text} (hequals : '=' ∉ other) :
    e'.bytes? other = if other = name then some value.encode else e.bytes? other := by
  obtain ⟨hname, -, ⟨d, d', rfl, rfl, hvars⟩ | ⟨d, rfl, rfl⟩⟩ := set_cases h
  · rw [bytes?, SortedEnv.get?, hvars]
    split
    · next heq => rw [heq, SortedEnv.lookup_insert_self, Option.map_some]
    · next hne =>
        rw [SortedEnv.lookup_insert_other hne]
        rfl
  · rw [bytes?]
    split
    · next heq => rw [heq, ProcessEnv.find?_put]
    · next hne => exact ProcessEnv.find?_put_other hname d hequals hne

theorem bytes?_of_unset (h : e.unset name = .ok e') {other : Text} (hequals : '=' ∉ other) :
    e'.bytes? other = if other = name then none else e.bytes? other := by
  obtain ⟨hname, ⟨d, d', rfl, rfl, hvars⟩ | ⟨d, rfl, rfl⟩⟩ := unset_cases h
  · rw [bytes?, SortedEnv.get?, hvars, SortedEnv.lookup_filter]
    split
    · rfl
    · rfl
  · rw [bytes?, ProcessEnv.find?_filter hname d hequals]
    split
    · rfl
    · rfl

/-- The name of a change has its new value or none, and the others have the values that they had. -/
theorem bytes?_of_change {c : Change} (h : e.change c = .ok e') {other : Text}
    (hequals : '=' ∉ other) :
    e'.bytes? other = if other = c.name then c.value?.map Text.encode else e.bytes? other := by
  cases c with
  | put name value => exact bytes?_of_set h hequals
  | drop name => exact bytes?_of_unset h hequals

end

/-! ### All entries -/

/-- The entries by name and value, in the order in which the environment has them. -/
def entries : Environment → List (Bytes × Bytes)
  | .sorted e => (sorted e).snapshot
  | .process e => e.entries.filterMap ProcessEnv.split?

/-- The environment has these entries: in this order, if it is one of a process. -/
def Holds : Environment → List (Bytes × Bytes) → Prop
  | .sorted e, vs => (sorted e).snapshot.Perm vs
  | .process e, vs => e.entries.filterMap ProcessEnv.split? = vs

/-- Variables of other names are entries of other names. -/
theorem map_encode_filter (name : Text) (vs : List (Text × Text)) :
    (vs.filter fun v => v.1 != name).map (fun v => (v.1.encode, v.2.encode)) =
      (vs.map fun v => (v.1.encode, v.2.encode)).filter fun v => v.1 != name.encode := by
  rw [List.filter_map]
  refine congrArg (List.map _) (List.filter_congr fun v _ => ?_)
  have hkeys : v.1 = name ↔ v.1.encode = name.encode :=
    ⟨congrArg _, fun h => Text.encode_injective h⟩
  simp [bne, hkeys]

theorem holds_entries (e : Environment) : Holds e e.entries := by
  cases e with
  | sorted e => exact .refl _
  | process e => rfl

namespace Holds

variable {e e' : Environment} {vs : List (Bytes × Bytes)}

theorem perm (h : Holds e vs) : e.snapshot.Perm vs := by
  cases e with
  | sorted e => exact h
  | process e => exact (List.mergeSort_perm _ _).trans (.of_eq h)

/-- **A change is made to the entries and leaves nothing else behind.** -/
theorem change (h : Holds e vs) {c : Change} (hc : e.change c = .ok e') :
    Holds e' (c.override vs) := by
  cases c with
  | put name value =>
      obtain ⟨hname, -, ⟨d, d', rfl, rfl, hvars⟩ | ⟨d, rfl, rfl⟩⟩ := set_cases hc
      · have hn : ((sorted d).snapshot.map Prod.fst).Nodup := eachOnce_sorted d
        have hnew := (@SortedEnv.insert_perm_filter name value d.vars d.ascending).map
          fun v => (v.1.encode, v.2.encode)
        rw [← hvars, List.map_cons, map_encode_filter] at hnew
        -- the new one first and the others behind it: what the override comes to
        exact (hnew.trans (putFirst_perm hn).symm).trans
          (Change.override_perm (c := .put name value) hn h)
      · rw [Holds, Change.override, ← h]
        exact ProcessEnv.filterMap_split?_replace (Text.encode_ne_nil hname.1)
          (Text.equals_not_mem_tail hname.2.1) _ _
  | drop name =>
      obtain ⟨hname, ⟨d, d', rfl, rfl, hvars⟩ | ⟨d, rfl, rfl⟩⟩ := unset_cases hc
      · rw [Holds, snapshot, hvars, map_encode_filter]
        exact h.filter _
      · rw [Holds, Change.override, ← h]
        exact ProcessEnv.filterMap_split?_filter (Text.encode_ne_nil hname.1)
          (Text.equals_not_mem_tail hname.2.1) _

/-- **Programs inherit the entries, sorted.** -/
theorem snapshot (h : Holds e vs) : e.snapshot = vs.mergeSort (ProcessEnv.pairLe Bytes.le) := by
  cases e with
  | process e => exact congrArg (List.mergeSort · _) h
  | sorted e =>
      have hperm : (vs.mergeSort (ProcessEnv.pairLe Bytes.le)).Perm (sorted e).snapshot :=
        (List.mergeSort_perm _ _).trans h.symm
      have hascending : (vs.mergeSort (ProcessEnv.pairLe Bytes.le)).Pairwise fun v w => v.1 < w.1 :=
        ascending_of_nodup (ProcessEnv.pairwise_sortBytes vs)
          ((hperm.map Prod.fst).nodup_iff.mpr (eachOnce_sorted e))
      exact (eq_of_perm_of_ascending hperm hascending (ascending_snapshot_sorted e)).symm

end Holds

/-- Where no name comes twice, none does after a change. -/
theorem eachOnce_of_change {e e' : Environment} {c : Change} (h : e.change c = .ok e')
    (he : e.EachOnce) : e'.EachOnce := by
  have hholds := (holds_entries e).change h
  have hn : (e.entries.map Prod.fst).Nodup := ((holds_entries e).perm.map Prod.fst).nodup_iff.mp he
  exact (hholds.perm.map Prod.fst).nodup_iff.mpr (Change.nodup_override hn)

/-! ### What is hidden -/

/-- Listed is what is inherited and text. -/
theorem list_perm (e : Environment) : e.list.Perm (e.snapshot.filterMap ProcessEnv.asText?) := by
  cases e with
  | sorted e =>
      have htext : ∀ v ∈ e.vars, some v = ProcessEnv.asText? (v.1.encode, v.2.encode) := by
        intro v _
        simp [ProcessEnv.asText?, Text.decode?_encode]
      rw [snapshot, List.filterMap_map]
      exact .of_eq (List.filterMap_some.symm.trans (List.filterMap_congr htext))
  | process e =>
      exact (List.mergeSort_perm _ _).trans ((List.mergeSort_perm _ _).symm.filterMap _)

/-- What is listed after a change was listed before, or it is what was put. -/
theorem mem_list_of_change {e e' : Environment} {c : Change} (h : e.change c = .ok e')
    {v : Text × Text} (hv : v ∈ e'.list) : v ∈ e.list ∨ c = .put v.1 v.2 := by
  cases c with
  | put name value =>
      have hmem := (setTo_of_set h).listed.mem_iff.mp (List.mem_append_right _ hv)
      rcases List.mem_cons.mp hmem with rfl | hmem
      · exact Or.inr rfl
      · exact Or.inl hmem
  | drop name =>
      refine Or.inl ?_
      obtain ⟨w, hw, htext⟩ := List.mem_filterMap.mp (e'.list_perm.mem_iff.mp hv)
      have hrest := ((holds_entries e).change h).perm.mem_iff.mp hw
      have hentry := (holds_entries e).perm.mem_iff.mpr (List.mem_of_mem_filter hrest)
      exact e.list_perm.mem_iff.mpr (List.mem_filterMap.mpr ⟨w, hentry, htext⟩)

/-- Found is what is found in bytes and is text. -/
theorem get?_eq {e : Environment} {name : Text} (hname : ValidName name) :
    e.get? name = (e.bytes? name).bind Bytes.decode? := by
  cases e with
  | sorted e =>
      rw [get?, bytes?]
      cases e.get? name with
      | none => rfl
      | some value => exact (Text.decode?_encode value).symm
  | process e => exact if_neg (not_or_intro hname.1 hname.2.2)

/-- A value that is no text is found under no name. -/
theorem get?_of_decode?_eq_none {e : Environment} (he : e.EachOnce) {name : Text} {b : Bytes}
    (h : (name.encode, b) ∈ e.snapshot) (hb : Bytes.decode? b = none) : e.get? name = none := by
  have hfound := bytes?_of_mem_snapshot he h
  cases e with
  | sorted e =>
      obtain ⟨value, -, rfl⟩ := Option.map_eq_some_iff.mp hfound
      rw [Text.decode?_encode] at hb
      cases hb
  | process e =>
      rw [bytes?] at hfound
      rw [get?, ProcessEnv.get?, hfound, Option.bind_some, hb, ite_self]

end Environment

end AliasShell
