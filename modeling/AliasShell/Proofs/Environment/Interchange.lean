/-
Two environments with the same calls.

Started with no variables, an environment of a session and one of a process go through
the same calls.  They stay `Same`: the process has one entry for each variable of the
session and no others, and every name and value could be set.  So a lookup by the bytes
of a name and `=` finds what a lookup by the name finds: `find?_eq_some_iff`.

There is one call that tells the two apart.  Names that hold an `=` are refused where a
variable is set or removed, but not where its value is asked for, and an entry may begin
with such a name and `=` although it is the entry of a shorter name.  `interchange` says
what the process answers there, and that there is no other difference.
-/
import AliasShell.Proofs.Environment.Changes

namespace AliasShell

namespace Environment

/-! ### Calls -/

/-- A call of an environment. -/
inductive Call where
  | set (name value : Text)
  | unset (name : Text)
  | get (name : Text)
  | list
  | snapshot
  deriving Repr, DecidableEq

/-- What a call hands back. -/
inductive Answer where
  | changed (result : Except EnvError Unit)
  | value (found : Option Text)
  | listed (vars : List (Text × Text))
  | inherited (vars : List (Bytes × Bytes))
  deriving DecidableEq

/-- How a change went, and the environment with it; without it, if it failed. -/
def settle (e : Environment) : Except EnvError Environment → Answer × Environment
  | .ok e' => (.changed (.ok ()), e')
  | .error err => (.changed (.error err), e)

/-- The answer to a call, and the environment after it. -/
def Call.perform : Call → Environment → Answer × Environment
  | .set name value, e => e.settle (e.set name value)
  | .unset name, e => e.settle (e.unset name)
  | .get name, e => (.value (e.get? name), e)
  | .list, e => (.listed e.list, e)
  | .snapshot, e => (.inherited e.snapshot, e)

/-- The environment after calls. -/
def after (calls : List Call) (e : Environment) : Environment :=
  calls.foldl (fun e c => (c.perform e).2) e

/-- A call that fails changes nothing. -/
theorem perform_error {c : Call} {e : Environment} {err : EnvError}
    (h : (c.perform e).1 = .changed (.error err)) : (c.perform e).2 = e := by
  have hsettle : ∀ result, (e.settle result).1 = .changed (.error err) →
      (e.settle result).2 = e := by
    rintro (_ | _) hresult
    · rfl
    · cases hresult
  cases c with
  | set name value => exact hsettle _ h
  | unset name => exact hsettle _ h
  | get name => rfl
  | list => rfl
  | snapshot => rfl

/-! ### The same variables -/

/-- The entry of a process for a variable. -/
def entryOf (v : Text × Text) : Bytes := ProcessEnv.entry v.1.encode v.2.encode

/-- Both hold the same variables, and all of them could be set. -/
structure Same (m : SortedEnv) (p : ProcessEnv) : Prop where
  valid : ∀ v ∈ m.vars, ValidName v.1 ∧ ValidValue v.2
  entries : p.entries.Perm (m.vars.map entryOf)

/-- An entry is found by its name, or by its name and what its value begins with. -/
theorem isPrefixOf_entryOf {v : Text × Text} (hv : '=' ∉ v.1) {n : Text} (hn : '=' ∉ n)
    {s : Bytes} :
    (ProcessEnv.entry n.encode s).isPrefixOf (entryOf v) = true ↔
      v.1 = n ∧ ∃ b, v.2.encode = s ++ b := by
  rw [List.isPrefixOf_iff_prefix]
  constructor
  · rintro ⟨b, hb⟩
    rw [← ProcessEnv.entry_append] at hb
    obtain ⟨hname, hvalue⟩ := ProcessEnv.entry_injective (Text.equals_not_mem_encode hn)
      (Text.equals_not_mem_encode hv) hb
    exact ⟨Text.encode_injective hname.symm, b, hvalue.symm⟩
  · rintro ⟨rfl, b, hb⟩
    exact ⟨b, by rw [← ProcessEnv.entry_append, ← hb, entryOf]⟩

namespace Same

variable {m : SortedEnv} {p : ProcessEnv} {n : Text}

theorem get?_eq_some_iff {value : Text} : m.get? n = some value ↔ (n, value) ∈ m.vars := by
  refine ⟨fun hv => ?_, lookup_of_mem (nodup_of_ascending m.ascending)⟩
  obtain ⟨front, rest, hvars, -⟩ := List.lookup_eq_some_iff.mp hv
  rw [hvars]
  simp

/-- **What is looked up is found in the variable that it begins with**: the name itself, or a name
and some of its value. -/
theorem find?_eq_some_iff (h : Same m p) (hn : '=' ∉ n) {name s b : Bytes}
    (hname : name ++ [ProcessEnv.equals] = ProcessEnv.entry n.encode s) :
    p.find? name = some b ↔ ∃ value, m.get? n = some value ∧ value.encode = s ++ b := by
  have hentry : ∀ c, ProcessEnv.entry n.encode (s ++ c) = ProcessEnv.entry name c := fun c => by
    rw [ProcessEnv.entry_append, ← hname, ← ProcessEnv.entry_eq]
  have hfound : ∀ {c}, p.find? name = some c →
      ∃ value, m.get? n = some value ∧ value.encode = s ++ c := by
    intro c hc
    obtain ⟨x, hx, rfl⟩ := Option.map_eq_some_iff.mp hc
    have hfor := List.find?_some hx
    obtain ⟨v, hv, rfl⟩ := List.mem_map.mp (h.entries.mem_iff.mp (List.mem_of_find?_eq_some hx))
    rw [ProcessEnv.isFor, hname, isPrefixOf_entryOf (h.valid v hv).1.2.1 hn] at hfor
    obtain ⟨rfl, b, hb⟩ := hfor
    refine ⟨v.2, get?_eq_some_iff.mpr hv, ?_⟩
    rw [entryOf, hb, hentry, ProcessEnv.drop_entry]
  refine ⟨hfound, ?_⟩
  rintro ⟨value, hvalue, hb⟩
  have hmem : ProcessEnv.entry name b ∈ p.entries := by
    rw [h.entries.mem_iff, ← hentry, ← hb]
    exact List.mem_map.mpr ⟨(n, value), get?_eq_some_iff.mp hvalue, rfl⟩
  obtain ⟨c, hc⟩ := ProcessEnv.exists_find?_of_mem hmem
  obtain ⟨value', hvalue', hc'⟩ := hfound hc
  obtain rfl : value' = value := Option.some.inj (hvalue'.symm.trans hvalue)
  rw [hc, List.append_cancel_left (hc'.symm.trans hb)]

/-! ### Asking for a value -/

/-- A name that could not be set has no value. -/
theorem valid_of_get? (h : Same m p) {value : Text} (hv : m.get? n = some value) :
    ValidName n ∧ ValidValue value := h.valid _ (get?_eq_some_iff.mp hv)

theorem find?_eq (h : Same m p) (hn : '=' ∉ n) :
    p.find? n.encode = (m.get? n).map Text.encode := by
  refine Option.ext fun b => ?_
  rw [h.find?_eq_some_iff hn rfl, Option.map_eq_some_iff]
  rfl

theorem get?_of_not_mem (h : Same m p) (hn : '=' ∉ n) : p.get? n = m.get? n := by
  rw [ProcessEnv.get?]
  split
  · next hbad =>
      cases hv : m.get? n with
      | none => rfl
      | some value =>
          obtain ⟨⟨hne, -, hnul⟩, -⟩ := h.valid_of_get? hv
          exact absurd hbad (not_or_intro hne hnul)
  · rw [h.find?_eq hn]
    cases m.get? n with
    | none => rfl
    | some value => exact Text.decode?_encode value

/-- A name with an `=` in it finds the rest of a value. -/
theorem get?_append (h : Same m p) (hn : '=' ∉ n) {r t : Text} :
    p.get? (n ++ '=' :: r) = some t ↔ m.get? n = some (r ++ '=' :: t) := by
  have hequals : ∀ u, Text.encode ('=' :: u) = ProcessEnv.equals :: Text.encode u := fun _ => rfl
  have hfind : ∀ b, p.find? (Text.encode (n ++ '=' :: r)) = some b ↔
      ∃ value, m.get? n = some value ∧ value.encode = Text.encode (r ++ ['=']) ++ b := fun b =>
    h.find?_eq_some_iff hn (by simp [hequals, ProcessEnv.entry])
  constructor
  · intro hget
    rw [ProcessEnv.get?] at hget
    split at hget
    · cases hget
    · obtain ⟨b, hb, hdecode⟩ := Option.bind_eq_some_iff.mp hget
      obtain ⟨value, hvalue, hbytes⟩ := (hfind b).mp hb
      obtain ⟨u, rfl, rfl⟩ := Text.eq_append_of_encode hbytes
      obtain rfl : u = t := Option.some.inj ((Text.decode?_encode u).symm.trans hdecode)
      simpa using hvalue
  · intro hvalue
    obtain ⟨⟨hne, -, hnul⟩, hvalid⟩ := h.valid_of_get? hvalue
    have hfound := (hfind t.encode).mpr ⟨_, hvalue, by simp [hequals]⟩
    have hname : ¬(n ++ '=' :: r = [] ∨ '\x00' ∈ n ++ '=' :: r) := by
      rintro (hnil | hmem)
      · simp at hnil
      · rcases List.mem_append.mp hmem with hmem | hmem
        · exact hnul hmem
        · rcases List.mem_cons.mp hmem with heq | hmem
          · cases heq
          · exact hvalid (List.mem_append_left _ hmem)
    rw [ProcessEnv.get?, if_neg hname, hfound, Option.bind_some, Text.decode?_encode]

/-- In the session it finds nothing. -/
theorem get?_of_mem (h : Same m p) (hn : '=' ∈ n) : m.get? n = none := by
  cases hv : m.get? n with
  | none => rfl
  | some value => exact absurd hn (h.valid_of_get? hv).1.2.1

/-! ### Asking for everything -/

theorem snapshot_perm (h : Same m p) : (process p).snapshot.Perm (sorted m).snapshot := by
  have hsides : (m.vars.map entryOf).filterMap ProcessEnv.split? =
      m.vars.map fun v => (v.1.encode, v.2.encode) := by
    rw [List.filterMap_map, ← List.filterMap_eq_map]
    refine List.filterMap_congr fun v hv => ?_
    obtain ⟨hne, hequals, -⟩ := (h.valid v hv).1
    exact ProcessEnv.split?_entry (Text.encode_ne_nil hne) (Text.equals_not_mem_tail hequals) _
  exact (List.mergeSort_perm _ _).trans ((h.entries.filterMap _).trans (.of_eq hsides))

theorem snapshot_eq (h : Same m p) : (process p).snapshot = (sorted m).snapshot := by
  have heach : (process p).EachOnce :=
    (h.snapshot_perm.map Prod.fst).nodup_iff.mpr (eachOnce_sorted m)
  exact eq_of_perm_of_ascending h.snapshot_perm (ascending_snapshot heach)
    (ascending_snapshot_sorted m)

theorem list_eq (h : Same m p) : (process p).list = (sorted m).list := by
  have hperm : p.list.Perm m.vars :=
    (list_perm (process p)).trans
      ((h.snapshot_perm.filterMap _).trans (list_perm (sorted m)).symm)
  have hnodup : (p.list.map Prod.fst).Nodup :=
    (hperm.map Prod.fst).nodup_iff.mpr (nodup_of_ascending m.ascending)
  refine eq_of_perm_of_ascending hperm (ascending_of_nodup ?_ hnodup) m.ascending
  refine (ProcessEnv.pairwise_mergeSort Text.linear_le _).imp fun {v w} hle => ?_
  rwa [Text.le, Bool.not_eq_true', decide_eq_false_iff_not] at hle

/-! ### Setting and removing -/

section Changes

variable {name value : Text}

theorem set (h : Same m p) (hname : ValidName name) (hvalue : ValidValue value) {m' : SortedEnv}
    (hm : m'.vars = SortedEnv.insert name value m.vars) :
    Same m' (p.put name.encode value.encode) := by
  constructor
  · intro v hv
    rcases SortedEnv.eq_or_mem_of_mem_insert (hm ▸ hv) with rfl | hv
    · exact ⟨hname, hvalue⟩
    · exact h.valid v hv
  · have hold : (p.entries.find? (ProcessEnv.isFor name.encode)).toList =
        ((m.get? name).toList.map (name, ·)).map entryOf := by
      rw [ProcessEnv.find?_isFor, h.find?_eq hname.2.1]
      cases m.get? name <;> rfl
    have hvars : ((m.get? name).toList.map (name, ·) ++ m'.vars).Perm ((name, value) :: m.vars) :=
      hm ▸ SortedEnv.insert_perm m.ascending
    have hnew := ProcessEnv.replace_perm name.encode (entryOf (name, value)) p.entries
    rw [hold] at hnew
    have hentries := hnew.trans ((h.entries.cons _).trans (hvars.map entryOf).symm)
    rw [List.map_append] at hentries
    exact (List.perm_append_left_iff _).mp hentries

theorem unset (h : Same m p) (hname : ValidName name) {m' : SortedEnv}
    (hm : m'.vars = m.vars.filter fun v => v.1 != name) :
    Same m' ⟨p.entries.filter fun x => !ProcessEnv.isFor name.encode x⟩ := by
  constructor
  · intro v hv
    exact h.valid v (List.mem_of_mem_filter (hm ▸ hv))
  · rw [hm]
    refine (h.entries.filter _).trans (.of_eq ?_)
    rw [List.filter_map]
    refine congrArg (List.map _) (List.filter_congr fun v hv => ?_)
    have hfor : ProcessEnv.isFor name.encode (entryOf v) = true ↔ v.1 = name :=
      (isPrefixOf_entryOf (h.valid v hv).1.2.1 hname.2.1).trans
        ⟨And.left, fun heq => ⟨heq, _, rfl⟩⟩
    exact congrArg (!·) (Bool.eq_iff_iff.mpr (hfor.trans beq_iff_eq.symm))

end Changes

end Same

/-! ### Every call -/

/-- What a change comes to in both: the same variables, or the same failure. -/
inductive Together : Except EnvError Environment → Except EnvError Environment → Prop
  | ok {m : SortedEnv} {p : ProcessEnv} (same : Same m p) :
      Together (.ok (.sorted m)) (.ok (.process p))
  | error (err : EnvError) : Together (.error err) (.error err)

namespace Same

variable {m : SortedEnv} {p : ProcessEnv} (h : Same m p)

include h

theorem set_together (name value : Text) :
    Together ((sorted m).set name value) ((process p).set name value) := by
  rw [Environment.set, Environment.set, SortedEnv.set, ProcessEnv.set, checking, checking]
  by_cases hname : ValidName name
  · by_cases hvalue : ValidValue value
    · rw [if_pos hname, if_pos hvalue, if_pos hname, if_pos hvalue]
      exact .ok (h.set hname hvalue rfl)
    · rw [if_pos hname, if_neg hvalue, if_pos hname, if_neg hvalue]
      exact .error _
  · rw [if_neg hname, if_neg hname]
    exact .error _

theorem unset_together (name : Text) :
    Together ((sorted m).unset name) ((process p).unset name) := by
  rw [Environment.unset, Environment.unset, SortedEnv.unset, ProcessEnv.unset, checkingName,
    checkingName]
  by_cases hname : ValidName name
  · rw [if_pos hname, if_pos hname]
    exact .ok (h.unset hname rfl)
  · rw [if_neg hname, if_neg hname]
    exact .error _

/-- A call leaves both with the same variables. -/
theorem perform (c : Call) :
    ∃ m' p', (c.perform (.sorted m)).2 = .sorted m' ∧ (c.perform (.process p)).2 = .process p' ∧
      Same m' p' := by
  have hsettle : ∀ {a b}, Together a b → ∃ m' p', ((sorted m).settle a).2 = .sorted m' ∧
      ((process p).settle b).2 = .process p' ∧ Same m' p' := by
    rintro _ _ (hsame | _)
    · exact ⟨_, _, rfl, rfl, hsame⟩
    · exact ⟨m, p, rfl, rfl, h⟩
  cases c with
  | set name value => exact hsettle (h.set_together name value)
  | unset name => exact hsettle (h.unset_together name)
  | get name => exact ⟨m, p, rfl, rfl, h⟩
  | list => exact ⟨m, p, rfl, rfl, h⟩
  | snapshot => exact ⟨m, p, rfl, rfl, h⟩

/-- And both answer alike, but where a name with an `=` is asked for. -/
theorem answer_eq {c : Call} (hc : ∀ name, c = .get name → '=' ∉ name) :
    (c.perform (.sorted m)).1 = (c.perform (.process p)).1 := by
  have hsettle : ∀ {a b}, Together a b → ((sorted m).settle a).1 = ((process p).settle b).1 := by
    rintro _ _ (_ | _)
    · rfl
    · rfl
  cases c with
  | set name value => exact hsettle (h.set_together name value)
  | unset name => exact hsettle (h.unset_together name)
  | get name => exact congrArg Answer.value (h.get?_of_not_mem (hc name rfl)).symm
  | list => exact congrArg Answer.listed h.list_eq.symm
  | snapshot => exact congrArg Answer.inherited h.snapshot_eq.symm

end Same

/-- After calls from no variables at all, both have the same ones. -/
theorem same_after (calls : List Call) {m : SortedEnv} {p : ProcessEnv} (h : Same m p) :
    ∃ m' p', after calls (.sorted m) = .sorted m' ∧ after calls (.process p) = .process p' ∧
      Same m' p' := by
  induction calls generalizing m p with
  | nil => exact ⟨m, p, rfl, rfl, h⟩
  | cons c calls ih =>
      obtain ⟨m', p', hm, hp, hsame⟩ := h.perform c
      obtain ⟨m'', p'', hm', hp', hlast⟩ := ih hsame
      exact ⟨m'', p'', by rw [← hm', ← hm]; rfl, by rw [← hp', ← hp]; rfl, hlast⟩

theorem same_empty : Same .empty ⟨[]⟩ := ⟨by rintro v ⟨⟩, .nil⟩

/-- How far the environment `a` of a session and the environment `b` of a process can stand for each
other. -/
structure Interchanged (a b : Environment) : Prop where
  /-- every call has the same answer in both, but for the value of a name that holds an `=` -/
  answers : ∀ c : Call, (∀ name, c = .get name → '=' ∉ name) → (c.perform a).1 = (c.perform b).1
  /-- such a name has no value in `a`; in `b` it has the rest of a value, where the part of the name
  before its first `=` is a variable and the value of that one begins with the other part and `=` -/
  cut : ∀ n r, '=' ∉ n → a.get? (n ++ '=' :: r) = none ∧
    ∀ t, b.get? (n ++ '=' :: r) = some t ↔ a.get? n = some (r ++ '=' :: t)
  /-- variables are listed by their names, each of them once -/
  listed : (a.list.Pairwise fun v w => v.1 < w.1) ∧ b.list = a.list
  /-- and are handed to programs by their names, each of them once -/
  inherited : (a.snapshot.Pairwise fun v w => v.1 < w.1) ∧ b.snapshot = a.snapshot
  /-- a call that fails changes neither -/
  unchanged : ∀ (c : Call) (err : EnvError), (c.perform a).1 = .changed (.error err) →
    (c.perform a).2 = a ∧ (c.perform b).2 = b

/-- **After any calls, both kinds of environments can stand for each other**, but where a name with
an `=` is asked for. -/
theorem interchange (calls : List Call) :
    Interchanged (after calls (.sorted .empty)) (after calls (.process ⟨[]⟩)) := by
  obtain ⟨m, p, hm, hp, h⟩ := same_after calls same_empty
  rw [hm, hp]
  constructor
  · exact fun c hc => h.answer_eq hc
  · intro n r hn
    exact ⟨h.get?_of_mem (by simp), fun t => h.get?_append hn⟩
  · exact ⟨m.ascending, h.list_eq⟩
  · exact ⟨ascending_snapshot_sorted m, h.snapshot_eq⟩
  · intro c err hc
    have hplain : ∀ name, c = .get name → '=' ∉ name := by
      rintro name rfl
      cases hc
    exact ⟨perform_error hc, perform_error (h.answer_eq hplain ▸ hc)⟩

/-- The two do not answer alike where `A` has the value `B=C` and `A=B` is asked for. -/
theorem interchange_fails :
    ((Call.get "A=B").perform (after [.set "A" "B=C"] (.sorted .empty))).1 = .value none ∧
      ((Call.get "A=B").perform (after [.set "A" "B=C"] (.process ⟨[]⟩))).1 =
        .value (some "C") := by
  decide

end Environment

end AliasShell
