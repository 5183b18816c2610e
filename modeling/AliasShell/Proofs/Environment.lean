/-
What setting a variable does to an environment.

Both kinds of environment are lists of entries, but they find an entry in different
ways: one compares names, the other looks for the bytes of a name with `=` behind.
Since no valid name holds an `=`, and in UTF-8 no other character is encoded with
the byte of one, an entry is found under one name only, and `entry_injective` says
so.  From there on the two come to the same.

`SetTo` says what has changed when a variable is set, for every reader of an
environment: the one entry of the name is another, or new, and everything else is as
it was.  `set_setTo` is that setting does just this and never fails on what can be a
name and a value.
-/
import AliasShell.Environment.Store
import Mathlib.Data.List.Perm.Basic

namespace AliasShell

/-! ### The byte between name and value -/

/-- A byte below 128 is the encoding of its own character and part of no other. -/
theorem Text.toNat_of_mem_utf8 {c : Char} {n : Nat} (hn : n < 128)
    (h : UInt8.ofNat n ∈ String.utf8EncodeChar c) : c.toNat = n := by
  have hbyte : ∀ m : Nat, UInt8.ofNat n = UInt8.ofNat m → m < 256 → n = m := by
    intro m hm hlt
    have hmod := congrArg UInt8.toNat hm
    rw [UInt8.toNat_ofNat', UInt8.toNat_ofNat'] at hmod
    omega
  unfold String.utf8EncodeChar at h
  extract_lets v at h
  split at h
  · next hle =>
      exact (hbyte _ (List.mem_singleton.mp h) (by omega)).symm
  · -- of more than one byte all have a value of 128 or more
    exfalso
    split at h
    · rcases List.mem_pair.mp h with h | h <;> exact absurd (hbyte _ h (by omega)) (by omega)
    · split at h
      · simp only [List.mem_cons, List.not_mem_nil, or_false] at h
        rcases h with h | h | h <;> exact absurd (hbyte _ h (by omega)) (by omega)
      · simp only [List.mem_cons, List.not_mem_nil, or_false] at h
        rcases h with h | h | h | h <;> exact absurd (hbyte _ h (by omega)) (by omega)

theorem Text.equals_not_mem_encode {t : Text} (h : '=' ∉ t) : ProcessEnv.equals ∉ t.encode := by
  intro hmem
  obtain ⟨c, hc, hbyte⟩ := List.mem_flatMap.mp hmem
  have hequals : c = '=' := Char.toNat_inj.mp (Text.toNat_of_mem_utf8 (n := 61) (by omega) hbyte)
  exact h (hequals ▸ hc)

theorem Text.equals_not_mem_tail {t : Text} (h : '=' ∉ t) : ProcessEnv.equals ∉ t.encode.tail :=
  fun hmem => Text.equals_not_mem_encode h (List.mem_of_mem_tail hmem)

theorem Text.encode_ne_nil {t : Text} (h : t ≠ []) : t.encode ≠ [] := fun hnil =>
  h (Text.encode_injective (hnil.trans Text.encode_nil.symm))

namespace ProcessEnv

/-! ### One entry -/

section Entry

variable {n o : Bytes}

theorem isFor_iff {e : Bytes} : isFor n e = true ↔ ∃ v, e = entry n v := by
  rw [isFor, List.isPrefixOf_iff_prefix]
  constructor
  · rintro ⟨v, rfl⟩
    exact ⟨v, List.append_assoc n [equals] v⟩
  · rintro ⟨v, rfl⟩
    exact ⟨v, List.append_assoc n [equals] v⟩

theorem isFor_entry (n v : Bytes) : isFor n (entry n v) = true := isFor_iff.mpr ⟨v, rfl⟩

theorem drop_entry (n v : Bytes) : (entry n v).drop (n.length + 1) = v := by
  rw [entry, List.drop_append, List.drop_eq_nil_of_le (Nat.le_succ _), Nat.add_sub_cancel_left]
  rfl

theorem cutEquals_entry (hn : equals ∉ n) (v : Bytes) : cutEquals (entry n v) = some (n, v) := by
  induction n with
  | nil => exact if_pos rfl
  | cons b bs ih =>
      have hb : b ≠ equals := fun hb => hn (hb ▸ List.mem_cons_self)
      have hbs := ih fun hmem => hn (List.mem_cons_of_mem b hmem)
      rw [entry] at hbs
      rw [entry, List.cons_append, cutEquals, if_neg hb, hbs]
      rfl

/-- Name and value are told from the entry. -/
theorem entry_injective {v w : Bytes} (hn : equals ∉ n) (ho : equals ∉ o)
    (h : entry n v = entry o w) : n = o ∧ v = w := by
  have hcut := cutEquals_entry hn v
  rw [h, cutEquals_entry ho w] at hcut
  exact (Prod.mk.inj (Option.some.inj hcut)).imp Eq.symm Eq.symm

theorem isFor_other {v : Bytes} (hn : equals ∉ n) (ho : equals ∉ o) (hne : o ≠ n) :
    isFor o (entry n v) = false := by
  rw [Bool.eq_false_iff]
  intro hfor
  obtain ⟨w, hw⟩ := isFor_iff.mp hfor
  exact hne (entry_injective hn ho hw).1.symm

theorem split?_entry (hne : n ≠ []) (hn : equals ∉ n.tail) (v : Bytes) :
    split? (entry n v) = some (n, v) := by
  cases n with
  | nil => exact absurd rfl hne
  | cons b bs =>
      have hbs : cutEquals (entry bs v) = some (bs, v) := cutEquals_entry hn v
      rw [entry] at hbs
      rw [entry, List.cons_append, split?, hbs]
      rfl

end Entry

/-! ### All entries -/

/-- Setting takes out the first entry for the name and puts the new one in. -/
theorem replace_perm (name new : Bytes) (es : List Bytes) :
    ((es.find? (isFor name)).toList ++ replace name new es).Perm (new :: es) := by
  induction es with
  | nil => exact .refl _
  | cons e es ih =>
      by_cases hfor : isFor name e = true
      · rw [replace, if_pos hfor, List.find?_cons_of_pos hfor]
        exact .swap new e es
      · rw [replace, if_neg hfor, List.find?_cons_of_neg hfor]
        exact List.perm_middle.trans ((ih.cons e).trans (.swap new e es))

theorem find?_replace_self {name new : Bytes} (hnew : isFor name new = true) (es : List Bytes) :
    (replace name new es).find? (isFor name) = some new := by
  induction es with
  | nil => exact List.find?_cons_of_pos hnew
  | cons e es ih =>
      rw [replace]
      split
      · exact List.find?_cons_of_pos hnew
      · next hfor => rw [List.find?_cons_of_neg hfor, ih]

/-- What is found under another name is not touched. -/
theorem find?_replace_other {name other new : Bytes} (hnew : isFor other new = false)
    (hfor : ∀ e, isFor name e = true → isFor other e = false) (es : List Bytes) :
    (replace name new es).find? (isFor other) = es.find? (isFor other) := by
  have hskip : ∀ {e : Bytes} (es : List Bytes), isFor other e = false →
      (e :: es).find? (isFor other) = es.find? (isFor other) := fun es he =>
    List.find?_cons_of_neg (Bool.eq_false_iff.mp he)
  induction es with
  | nil => exact hskip [] hnew
  | cons e es ih =>
      rw [replace]
      split
      · next he => rw [hskip es hnew, hskip es (hfor e he)]
      · rw [List.find?_cons, List.find?_cons, ih]

theorem find?_put (e : ProcessEnv) (name value : Bytes) :
    (e.put name value).find? name = some value := by
  rw [find?, put, find?_replace_self (isFor_entry name value), Option.map_some, drop_entry]

section Put

variable {name value : Text} (hname : Environment.ValidName name)

include hname

theorem get?_put (e : ProcessEnv) :
    (e.put name.encode value.encode).get? name = some value := by
  obtain ⟨hne, -, hnul⟩ := hname
  rw [get?, if_neg (not_or_intro hne hnul), find?_put, Option.bind_some, Text.decode?_encode]

theorem find?_put_other (e : ProcessEnv) {other : Text} (hequals : '=' ∉ other)
    (hother : other ≠ name) :
    (e.put name.encode value.encode).find? other.encode = e.find? other.encode := by
  have hn : equals ∉ name.encode := Text.equals_not_mem_encode hname.2.1
  have ho : equals ∉ other.encode := Text.equals_not_mem_encode hequals
  have hne : other.encode ≠ name.encode := fun heq => hother (Text.encode_injective heq)
  refine congrArg (Option.map _) (find?_replace_other (isFor_other hn ho hne) ?_ e.entries)
  intro x hx
  obtain ⟨v, rfl⟩ := isFor_iff.mp hx
  exact isFor_other hn ho hne

theorem get?_put_other (e : ProcessEnv) {other : Text} (hequals : '=' ∉ other)
    (hother : other ≠ name) :
    (e.put name.encode value.encode).get? other = e.get? other := by
  rw [get?, get?, find?_put_other hname e hequals hother]

/-- Taken apart into names and values, the entries differ in this one. -/
theorem put_perm (e : ProcessEnv) :
    ((e.find? name.encode).toList.map (name.encode, ·) ++
      (e.put name.encode value.encode).entries.filterMap split?).Perm
      ((name.encode, value.encode) :: e.entries.filterMap split?) := by
  have hsplit : ∀ v, split? (entry name.encode v) = some (name.encode, v) :=
    split?_entry (Text.encode_ne_nil hname.1) (Text.equals_not_mem_tail hname.2.1)
  have hold : (e.entries.find? (isFor name.encode)).toList.filterMap split? =
      (e.find? name.encode).toList.map (name.encode, ·) := by
    rw [find?]
    cases hfind : e.entries.find? (isFor name.encode) with
    | none => rfl
    | some x =>
        obtain ⟨v, rfl⟩ := isFor_iff.mp (List.find?_some hfind)
        simp [hsplit, drop_entry]
  have h := (replace_perm name.encode (entry name.encode value.encode) e.entries).filterMap split?
  rw [List.filterMap_append, hold, List.filterMap_cons_some (hsplit value.encode)] at h
  exact h

end Put

end ProcessEnv

namespace SortedEnv

section Insert

variable {name value : Text} {vs : List (Text × Text)}

theorem lookup_insert_self : (insert name value vs).lookup name = some value := by
  induction vs with
  | nil => simp [insert]
  | cons v vs ih =>
      rw [insert]
      split
      · simp
      · next hne =>
          split
          · simp
          · rw [List.lookup_cons, beq_false_of_ne (Ne.symm hne), ih]

theorem lookup_insert_other {other : Text} (hother : other ≠ name) :
    (insert name value vs).lookup other = vs.lookup other := by
  have hskip : ∀ ws : List (Text × Text), List.lookup other ((name, value) :: ws) =
      ws.lookup other := fun ws => by rw [List.lookup_cons, beq_false_of_ne hother]
  induction vs with
  | nil => exact hskip []
  | cons v vs ih =>
      rw [insert]
      split
      · next heq =>
          rw [hskip, List.lookup_cons, beq_false_of_ne (heq ▸ hother)]
      · split
        · exact hskip (v :: vs)
        · rw [List.lookup_cons, List.lookup_cons, ih]

/-- Setting takes out the variable of the name and puts the new one in. -/
theorem insert_perm (h : vs.Pairwise fun v w => v.1 < w.1) :
    ((vs.lookup name).toList.map (name, ·) ++ insert name value vs).Perm ((name, value) :: vs) := by
  induction vs with
  | nil => exact .refl _
  | cons v vs ih =>
      obtain ⟨hv, hvs⟩ := List.pairwise_cons.mp h
      by_cases heq : v.1 = name
      · subst heq
        rw [insert, if_pos rfl, List.lookup_cons, beq_self_eq_true]
        exact .swap _ _ _
      · rw [insert, if_neg heq, List.lookup_cons, beq_false_of_ne (Ne.symm heq)]
        by_cases hlt : name < v.1
        · -- names ascend, so the name does not come further on
          have hnone : vs.lookup name = none := List.lookup_eq_none_iff.mpr fun w hw => by
            have hlast : name < w.1 := List.lt_trans hlt (hv w hw)
            simpa using fun hw : name = w.1 => List.lt_irrefl _ (hw ▸ hlast)
          rw [if_pos hlt, hnone]
          exact .refl _
        · rw [if_neg hlt]
          exact List.perm_middle.trans (((ih hvs).cons v).trans (.swap _ _ _))

end Insert

end SortedEnv

namespace Environment

/-- The value of `name` in bytes, be it text or not. -/
def bytes? : Environment → Text → Option Bytes
  | .sorted e, name => (e.get? name).map Text.encode
  | .process e, name => e.find? name.encode

/-- The second environment is the first one but for `value` under `name`. -/
structure SetTo (e : Environment) (name value : Text) (e' : Environment) : Prop where
  /-- the name has the value -/
  here : e'.get? name = some value
  /-- every other name has the value that it had -/
  others : ∀ other, '=' ∉ other → other ≠ name → e'.get? other = e.get? other
  /-- what is listed differs in this entry -/
  listed : ((e.get? name).toList.map (name, ·) ++ e'.list).Perm ((name, value) :: e.list)
  /-- and so does what programs inherit -/
  inherited : ((e.bytes? name).toList.map (name.encode, ·) ++ e'.snapshot).Perm
    ((name.encode, value.encode) :: e.snapshot)

variable {name value : Text}

theorem SetTo.sorted (e : SortedEnv) {e' : SortedEnv}
    (h : e'.vars = SortedEnv.insert name value e.vars) :
    SetTo (.sorted e) name value (.sorted e') := by
  have hperm : ((e.get? name).toList.map (name, ·) ++ e'.vars).Perm ((name, value) :: e.vars) :=
    h ▸ SortedEnv.insert_perm e.ascending
  refine ⟨?_, fun other _ hother => ?_, hperm, ?_⟩
  · rw [get?, SortedEnv.get?, h, SortedEnv.lookup_insert_self]
  · rw [get?, SortedEnv.get?, h, SortedEnv.lookup_insert_other hother]
    rfl
  · have hbytes := hperm.map fun v => (v.1.encode, v.2.encode)
    rw [List.map_append, List.map_map] at hbytes
    rw [bytes?, Option.toList_map, List.map_map]
    exact hbytes

theorem SetTo.process (e : ProcessEnv) (hname : ValidName name) :
    SetTo (.process e) name value (.process (e.put name.encode value.encode)) := by
  have hsplit := @ProcessEnv.put_perm name value hname e
  have htext : ∀ b, ProcessEnv.asText? (name.encode, b) = (Bytes.decode? b).map (name, ·) := by
    intro b
    rw [ProcessEnv.asText?, Text.decode?_encode]
    cases Bytes.decode? b <;> rfl
  refine ⟨ProcessEnv.get?_put hname e, fun other h => ProcessEnv.get?_put_other hname e h, ?_, ?_⟩
  · have hlist := hsplit.filterMap ProcessEnv.asText?
    have hnew : ProcessEnv.asText? (name.encode, value.encode) = some (name, value) := by
      rw [htext, Text.decode?_encode, Option.map_some]
    have hold : ((e.find? name.encode).toList.map (name.encode, ·)).filterMap ProcessEnv.asText? =
        (e.get? name).toList.map (name, ·) := by
      rw [ProcessEnv.get?, if_neg (not_or_intro hname.1 hname.2.2)]
      cases e.find? name.encode with
      | none => rfl
      | some b =>
          rw [Option.toList_some, List.map_singleton, List.filterMap_cons, htext, Option.bind_some]
          cases Bytes.decode? b <;> rfl
    rw [List.filterMap_append, List.filterMap_cons_some hnew, hold] at hlist
    exact (List.Perm.append_left _ (List.mergeSort_perm _ _)).trans
      (hlist.trans ((List.mergeSort_perm _ _).symm.cons _))
  · exact (List.Perm.append_left _ (List.mergeSort_perm _ _)).trans
      (hsplit.trans ((List.mergeSort_perm _ _).symm.cons _))

/-- **What can be a name and a value can be set**, and nothing else changes. -/
theorem set_setTo (e : Environment) (hname : ValidName name) (hvalue : ValidValue value) :
    ∃ e', e.set name value = .ok e' ∧ SetTo e name value e' := by
  cases e with
  | sorted e =>
      refine ⟨.sorted ⟨_, SortedEnv.ascending_insert name value e.ascending⟩, ?_, .sorted e rfl⟩
      rw [set, SortedEnv.set, checking, if_pos hname, if_pos hvalue]
      rfl
  | process e =>
      refine ⟨.process (e.put name.encode value.encode), ?_, .process e hname⟩
      rw [set, ProcessEnv.set, checking, if_pos hname, if_pos hvalue]
      rfl

end Environment

end AliasShell
