/-
Variables kept in a list sorted by name, of use only to the session that owns it.

That the names ascend is part of what such an environment is, so it never has to be asked for:
`ascending_insert` and a filter keep it.
-/
import AliasShell.Environment.Basic

namespace AliasShell

/-- Variables in ascending order of their names, each name once. -/
structure SortedEnv where
  vars : List (Text × Text)
  ascending : vars.Pairwise fun v w => v.1 < w.1
  deriving Repr, DecidableEq

namespace SortedEnv

/-- No variables. -/
def empty : SortedEnv := ⟨[], .nil⟩

/-- `name` with `value` in its place in the order. -/
def insert (name value : Text) : List (Text × Text) → List (Text × Text)
  | [] => [(name, value)]
  | v :: vs =>
    if v.1 = name then (name, value) :: vs
    else if name < v.1 then (name, value) :: v :: vs
    else v :: insert name value vs

theorem eq_or_mem_of_mem_insert {name value : Text} {v : Text × Text} {vs : List (Text × Text)}
    (h : v ∈ insert name value vs) : v = (name, value) ∨ v ∈ vs := by
  induction vs with
  | nil => exact Or.inl (List.mem_singleton.mp h)
  | cons w ws ih =>
    rw [insert] at h
    split at h
    · exact (List.mem_cons.mp h).imp_right (List.mem_cons_of_mem w)
    · split at h
      · exact List.mem_cons.mp h
      · rcases List.mem_cons.mp h with rfl | h
        · exact Or.inr List.mem_cons_self
        · exact (ih h).imp_right (List.mem_cons_of_mem w)

/-- In its place a name keeps the order. -/
theorem ascending_insert (name value : Text) {vs : List (Text × Text)}
    (h : vs.Pairwise fun v w => v.1 < w.1) :
    (insert name value vs).Pairwise fun v w => v.1 < w.1 := by
  induction vs with
  | nil => exact List.pairwise_singleton _ _
  | cons v vs ih =>
    obtain ⟨hv, hvs⟩ := List.pairwise_cons.mp h
    rw [insert]
    split
    · next heq => exact List.pairwise_cons.mpr ⟨fun w hw => heq ▸ hv w hw, hvs⟩
    · next hne =>
      split
      · next hlt =>
        refine List.pairwise_cons.mpr ⟨fun w hw => ?_, h⟩
        rcases List.mem_cons.mp hw with rfl | hw
        · exact hlt
        · exact List.lt_trans hlt (hv w hw)
      · next hge =>
        have hlt : v.1 < name := Classical.byContradiction fun hle =>
          hne (List.le_antisymm (List.not_lt.mp hge) (List.not_lt.mp hle))
        refine List.pairwise_cons.mpr ⟨fun w hw => ?_, ih hvs⟩
        rcases eq_or_mem_of_mem_insert hw with rfl | hw
        · exact hlt
        · exact hv w hw

/-- The value of `name`. -/
def get? (e : SortedEnv) (name : Text) : Option Text := e.vars.lookup name

/-- The environment with `value` under `name`. -/
def set (e : SortedEnv) (name value : Text) : Except EnvError SortedEnv :=
  Environment.checking name value
    ⟨insert name value e.vars, ascending_insert name value e.ascending⟩

/-- The environment without `name`. -/
def unset (e : SortedEnv) (name : Text) : Except EnvError SortedEnv :=
  Environment.checkingName name ⟨e.vars.filter (·.1 != name), e.ascending.filter _⟩

end SortedEnv

end AliasShell
