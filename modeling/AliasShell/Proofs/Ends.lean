/-
The longest end of a text without some characters.

Whoever looks back from the end of a text looks for the last character of some kind, and
takes what comes after it.  `IsTail` says this without any search: it is the longest end
in which no such character stands.  `isTail_rtakeWhile` and `exists_cutLast` show that
both ways to look back find it.
-/
import AliasShell.Text.Basic
import Mathlib.Data.List.DropRight

namespace AliasShell

namespace Text

/-- `u` is the longest end of `t` in which `p` picks no character. -/
structure IsTail (p : Char → Bool) (t u : Text) : Prop where
  suffix : u <:+ t
  free : ∀ c ∈ u, p c = false
  longest : ∀ v, v <:+ t → (∀ c ∈ v, p c = false) → v <:+ u

theorem IsTail.unique {p : Char → Bool} {t u v : Text} (hu : IsTail p t u) (hv : IsTail p t v) :
    u = v :=
  (hv.longest u hu.suffix hu.free).eq_of_length_le (hu.longest v hv.suffix hv.free).length_le

theorem isTail_rtakeWhile (p : Char → Bool) (t : Text) :
    IsTail p t (t.rtakeWhile fun c => !p c) := by
  refine ⟨List.rtakeWhile_suffix _ t, fun c hc => ?_, fun v hv hfree => ?_⟩
  · simpa using List.mem_rtakeWhile_imp hc
  · obtain ⟨a, rfl⟩ := hv
    have hv : ∀ c ∈ v.reverse, (!p c) = true := fun c hc => by
      rw [hfree c (List.mem_reverse.mp hc), Bool.not_false]
    rw [List.rtakeWhile, List.reverse_append, List.takeWhile_append_of_pos hv, List.reverse_append,
      List.reverse_reverse]
    exact List.suffix_append _ v

/-- In front of the longest end stands nothing, or a character that was to be avoided. -/
theorem IsTail.exists_front {p : Char → Bool} {t u : Text} (h : IsTail p t u) :
    ∃ front, t = front ++ u ∧ ∀ c ∈ front.getLast?, p c = true := by
  obtain ⟨front, rfl⟩ := h.suffix
  refine ⟨front, rfl, fun c hc => ?_⟩
  obtain ⟨f, rfl⟩ := List.getLast?_eq_some_iff.mp hc
  cases hp : p c with
  | true => rfl
  | false =>
      have hlonger : c :: u <:+ u :=
        h.longest (c :: u) ⟨f, by simp⟩ (List.forall_mem_cons.mpr ⟨hp, h.free⟩)
      have hlength := hlonger.length_le
      rw [List.length_cons] at hlength
      omega

/-- What comes after such a character, or after nothing, is the longest end if none comes in it. -/
theorem isTail_append {p : Char → Bool} {front u : Text} (hfront : ∀ c ∈ front.getLast?, p c = true)
    (hfree : ∀ c ∈ u, p c = false) : IsTail p (front ++ u) u := by
  refine ⟨List.suffix_append front u, hfree, fun v hv hv' => ?_⟩
  rcases List.eq_nil_or_concat front with rfl | ⟨f, s, rfl⟩
  · exact hv
  · have hs : p s = true := hfront s (by simp)
    have hcut : s :: u <:+ f.concat s ++ u := ⟨f, by simp⟩
    rcases List.suffix_or_suffix_of_suffix hv hcut with hshort | hlong
    · rcases List.suffix_cons_iff.mp hshort with rfl | hshort
      · exact absurd (hv' s List.mem_cons_self) (by rw [hs]; decide)
      · exact hshort
    · exact absurd (hv' s (hlong.subset List.mem_cons_self)) (by rw [hs]; decide)

theorem cutLast_eq_none {p : Char → Bool} {t : Text} (h : t.cutLast p = none) :
    ∀ c ∈ t, p c = false := by
  induction t with
  | nil => exact fun c hc => absurd hc List.not_mem_nil
  | cons d ds ih =>
      rw [cutLast] at h
      split at h
      · cases h
      · next hnone =>
          split at h
          · cases h
          · next hd => exact List.forall_mem_cons.mpr ⟨Bool.eq_false_iff.mpr hd, ih hnone⟩

theorem cutLast_eq_some {p : Char → Bool} {t a b : Text} (h : t.cutLast p = some (a, b)) :
    t = a ++ b ∧ (∃ f s, a = f ++ [s] ∧ p s = true) ∧ ∀ c ∈ b, p c = false := by
  induction t generalizing a b with
  | nil => cases h
  | cons d ds ih =>
      rw [cutLast] at h
      split at h
      · next a' b' hsome =>
          cases h
          obtain ⟨rfl, ⟨f, s, rfl, hs⟩, hfree⟩ := ih hsome
          exact ⟨rfl, ⟨d :: f, s, rfl, hs⟩, hfree⟩
      · next hnone =>
          split at h
          · next hd =>
              cases h
              exact ⟨rfl, ⟨[], d, rfl, hd⟩, cutLast_eq_none hnone⟩
          · cases h

/-- Cut at its last such character, a text ends with its longest end without any. -/
theorem exists_cutLast (p : Char → Bool) (t : Text) :
    ∃ front u, (t.cutLast p).getD ([], t) = (front, u) ∧ t = front ++ u ∧
      (∀ c ∈ front.getLast?, p c = true) ∧ IsTail p t u := by
  cases hcut : t.cutLast p with
  | none =>
      have hlast : ∀ c ∈ ([] : Text).getLast?, p c = true := fun c hc => by cases hc
      exact ⟨[], t, rfl, rfl, hlast, isTail_append hlast (cutLast_eq_none hcut)⟩
  | some cut =>
      obtain ⟨front, u⟩ := cut
      obtain ⟨rfl, ⟨f, s, rfl, hs⟩, hfree⟩ := cutLast_eq_some hcut
      have hlast : ∀ c ∈ (f ++ [s]).getLast?, p c = true := by
        intro c hc
        rw [List.getLast?_concat, Option.mem_some_iff] at hc
        exact hc ▸ hs
      exact ⟨f ++ [s], u, rfl, rfl, hlast, isTail_append hlast hfree⟩

end Text

end AliasShell
