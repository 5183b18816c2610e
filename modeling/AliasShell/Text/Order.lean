/-
Sets of texts as ascending lists.
-/
import AliasShell.Text.Basic

namespace AliasShell

namespace Text

/-- `t` in its place in an ascending list, once. -/
def insertSorted (t : Text) : List Text → List Text
  | [] => [t]
  | u :: us => if u = t then u :: us else if t < u then t :: u :: us else u :: insertSorted t us

/-- The texts in ascending order, each one once. -/
def sortedSet (ts : List Text) : List Text := ts.foldr insertSorted []

theorem mem_insertSorted {t u : Text} {us : List Text} :
    u ∈ insertSorted t us ↔ u = t ∨ u ∈ us := by
  induction us with
  | nil => simp [insertSorted]
  | cons v vs ih =>
    simp only [insertSorted]
    split
    · next h => subst h; simp
    · split
      · simp
      · simp only [List.mem_cons, ih]
        exact ⟨fun h => by rcases h with h | h | h <;> simp [h],
          fun h => by rcases h with h | h | h <;> simp [h]⟩

/-- The set holds what the list holds. -/
theorem mem_sortedSet {t : Text} {ts : List Text} : t ∈ sortedSet ts ↔ t ∈ ts := by
  induction ts with
  | nil => simp [sortedSet]
  | cons u us ih =>
    rw [show sortedSet (u :: us) = insertSorted u (sortedSet us) from rfl, mem_insertSorted, ih,
      List.mem_cons]

/-- In its place a text keeps the order. -/
theorem pairwise_insertSorted (t : Text) {us : List Text} (h : us.Pairwise (· < ·)) :
    (insertSorted t us).Pairwise (· < ·) := by
  induction us with
  | nil => exact List.pairwise_singleton _ _
  | cons u us ih =>
    obtain ⟨hu, hus⟩ := List.pairwise_cons.mp h
    simp only [insertSorted]
    split
    · exact h
    · next hne =>
      split
      · next hlt =>
        refine List.pairwise_cons.mpr ⟨fun v hv => ?_, h⟩
        rcases List.mem_cons.mp hv with rfl | hv
        · exact hlt
        · exact List.lt_trans hlt (hu v hv)
      · next hge =>
        have hlt : u < t := Classical.byContradiction fun hle =>
          hne (List.le_antisymm (List.not_lt.mp hge) (List.not_lt.mp hle))
        refine List.pairwise_cons.mpr ⟨fun v hv => ?_, ih hus⟩
        rcases mem_insertSorted.mp hv with rfl | hv
        · exact hlt
        · exact hu v hv

theorem pairwise_sortedSet (ts : List Text) : (sortedSet ts).Pairwise (· < ·) := by
  induction ts with
  | nil => exact .nil
  | cons t ts ih => exact pairwise_insertSorted t ih

/-- `part` stands somewhere in the text. -/
def hasPart : Text → Text → Bool
  | [], part => part.isEmpty
  | c :: cs, part => startsWith (c :: cs) part || hasPart cs part

end Text

/-- A set of texts, kept in ascending order. -/
structure TextSet where
  toList : List Text
  ascending : toList.Pairwise (· < ·)
  deriving Repr, DecidableEq

namespace TextSet

/-- The set of the texts in a list. -/
def ofList (ts : List Text) : TextSet := ⟨Text.sortedSet ts, Text.pairwise_sortedSet ts⟩

/-- The set without texts. -/
def empty : TextSet := ofList []

instance : Membership Text TextSet := ⟨fun s t => t ∈ s.toList⟩

/-- The texts in it that begin with `start`. -/
def startingWith (s : TextSet) (start : Text) : List Text := s.toList.filter (·.startsWith start)

theorem mem_ofList {t : Text} {ts : List Text} : t ∈ ofList ts ↔ t ∈ ts := Text.mem_sortedSet

theorem not_mem_empty (t : Text) : t ∉ empty := List.not_mem_nil

theorem mem_startingWith {s : TextSet} {start t : Text} :
    t ∈ s.startingWith start ↔ t ∈ s ∧ start <+: t := by
  rw [startingWith, List.mem_filter, Text.startsWith, List.isPrefixOf_iff_prefix]
  rfl

/-- No text comes twice. -/
theorem nodup_toList (s : TextSet) : s.toList.Nodup := by
  refine s.ascending.imp ?_
  rintro t u hlt rfl
  exact List.lt_irrefl t hlt

theorem ascending_startingWith (s : TextSet) (start : Text) :
    (s.startingWith start).Pairwise (· < ·) := s.ascending.filter _

theorem nodup_startingWith (s : TextSet) (start : Text) : (s.startingWith start).Nodup :=
  s.nodup_toList.filter _

end TextSet

end AliasShell
