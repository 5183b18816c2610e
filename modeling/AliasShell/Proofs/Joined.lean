/-
Text that was put together from parts, and how the parts come back.

Arguments are joined with spaces, a declaration is joined at an `=`, and a listing
is lines with a line end behind each.  What reads them cuts at the first `=`, trims
what is left, or cuts at the line ends, and this is where it is shown that the
parts come back: `trim_unwords`, `cutFirst_append`, `cut_lines`.

A declaration is cut wherever its `=` stands, in the middle of a word or between
two, so what follows the cut need not be whole words.  `eq_unwords_of_suffix` says
what it is: words joined with spaces all the same, but the first may be empty.
Trimming it leaves words joined with spaces, which is `trim_of_suffix`.
-/
import AliasShell.Proofs.Tokens

namespace AliasShell

namespace Text

/-! ### Trimming -/

theorem mem_of_mem_trim {t : Text} {c : Char} (h : c ∈ t.trim) : c ∈ t := by
  have hend : c ∈ t.trimStart := by
    have hrev : c ∈ t.trimStart.reverse.dropWhile isBlank := List.mem_reverse.mp h
    exact List.mem_reverse.mp ((List.dropWhile_suffix _).mem hrev)
  exact (List.dropWhile_suffix _).mem hend

theorem trim_cons_blank {c : Char} (hc : isBlank c = true) (t : Text) :
    trim (c :: t) = trim t := by
  rw [trim, trimStart, List.dropWhile_cons_of_pos hc, trim, trimStart]

theorem trim_concat_blank (t : Text) {c : Char} (hc : isBlank c = true) :
    trim (t ++ [c]) = trim t := by
  have hend : ∀ u : Text, dropEnd isBlank (u ++ [c]) = dropEnd isBlank u := by
    intro u
    rw [dropEnd, List.reverse_concat, List.dropWhile_cons_of_pos hc, dropEnd]
  rw [trim, trimStart, List.dropWhile_append]
  split
  · next hnil =>
      rw [List.dropWhile_cons_of_pos hc, trim, trimStart, List.isEmpty_iff.mp hnil]
      rfl
  · rw [hend, trim, trimStart]

/-- A text with no blank at either end is trimmed. -/
theorem trim_eq_self {t : Text} (hhead : ∀ c ∈ t.head?, isBlank c = false)
    (hlast : ∀ c ∈ t.getLast?, isBlank c = false) : t.trim = t := by
  have hkept : ∀ u : Text, (∀ c ∈ u.head?, isBlank c = false) → u.dropWhile isBlank = u := by
    intro u hu
    cases u with
    | nil => rfl
    | cons c cs => exact List.dropWhile_cons_of_neg (by simp [hu c rfl])
  rw [trim, trimStart, hkept t hhead, dropEnd,
    hkept t.reverse (by rwa [List.head?_reverse]), List.reverse_reverse]

theorem trim_of_solid {t : Text} (h : ∀ c ∈ t, isBlank c = false) : t.trim = t :=
  trim_eq_self (fun c hc => h c (List.mem_of_mem_head? hc))
    fun c hc => h c (List.mem_of_mem_getLast? hc)

/-! ### Joining with spaces -/

/-- What stands in front of joined words stands in front of the first of them. -/
theorem append_unwords_cons (a v : Text) (vs : List Text) :
    a ++ unwords (v :: vs) = unwords ((a ++ v) :: vs) := by
  cases vs with
  | nil => rw [unwords_singleton, unwords_singleton]
  | cons w ws => rw [unwords_cons_cons, unwords_cons_cons, List.append_assoc]

theorem unwords_cons_of_ne_nil (v : Text) {vs : List Text} (h : vs ≠ []) :
    unwords (v :: vs) = v ++ ' ' :: unwords vs := by
  obtain ⟨w, ws, rfl⟩ := List.exists_cons_of_ne_nil h
  exact unwords_cons_cons v w ws

theorem unwords_append {us vs : List Text} (hus : us ≠ []) (hvs : vs ≠ []) :
    unwords (us ++ vs) = unwords us ++ ' ' :: unwords vs := by
  induction us with
  | nil => exact absurd rfl hus
  | cons u us ih =>
      by_cases hne : us = []
      · subst hne
        rw [unwords_singleton]
        exact unwords_cons_of_ne_nil u hvs
      · rw [List.cons_append, unwords_cons_of_ne_nil u (List.append_ne_nil_of_left_ne_nil hne vs),
          ih hne, unwords_cons_of_ne_nil u hne, List.append_assoc, List.cons_append]

/-- Joined words can be cut in the middle of one of them. -/
theorem unwords_append_cons (us : List Text) (a b : Text) (vs : List Text) :
    unwords (us ++ (a ++ b) :: vs) = unwords (us ++ [a]) ++ unwords (b :: vs) := by
  by_cases hne : us = []
  · subst hne
    rw [List.nil_append, List.nil_append, unwords_singleton, append_unwords_cons]
  · rw [unwords_append hne (List.cons_ne_nil _ _), unwords_append hne (List.cons_ne_nil a []),
      unwords_singleton, ← append_unwords_cons, List.append_assoc, List.cons_append]

theorem head?_unwords {ws : List Text} (h : ∀ w ∈ ws, IsWord w) :
    ∀ c ∈ (unwords ws).head?, isBlank c = false := by
  intro c hc
  cases ws with
  | nil => cases hc
  | cons v vs =>
      have hv : IsWord v := h v List.mem_cons_self
      obtain ⟨d, ds, rfl⟩ := List.exists_cons_of_ne_nil hv.ne_nil
      have hd : (unwords ((d :: ds) :: vs)).head? = some d := by
        cases vs with
        | nil => rw [unwords_singleton]; rfl
        | cons w ws => rw [unwords_cons_cons]; rfl
      rw [hd] at hc
      obtain rfl := Option.some.inj hc
      exact hv.solid d List.mem_cons_self

theorem getLast?_unwords {ws : List Text} (h : ∀ w ∈ ws, IsWord w) :
    ∀ c ∈ (unwords ws).getLast?, isBlank c = false := by
  induction ws with
  | nil => intro c hc; cases hc
  | cons v vs ih =>
      intro c hc
      cases vs with
      | nil =>
          rw [unwords_singleton] at hc
          exact (h v List.mem_cons_self).solid c (List.mem_of_mem_getLast? hc)
      | cons w ws =>
          have hws : ∀ u ∈ w :: ws, IsWord u := fun u hu => h u (List.mem_cons_of_mem v hu)
          have hne : unwords (w :: ws) ≠ [] := by
            intro hnil
            have hwords := words_unwords hws
            rw [hnil, words_nil] at hwords
            cases hwords
          have hlast := List.getLast?_eq_some_getLast hne
          rw [unwords_cons_cons, List.getLast?_append, List.getLast?_cons_of_ne_nil hne, hlast,
            Option.some_or, ← hlast] at hc
          exact ih hws c hc

/-- Words joined with spaces are trimmed. -/
theorem trim_unwords {ws : List Text} (h : ∀ w ∈ ws, IsWord w) :
    (unwords ws).trim = unwords ws :=
  trim_eq_self (head?_unwords h) (getLast?_unwords h)

/-- Where joined words are cut, words are left; of the first, what was behind the cut, if anything
was. -/
theorem eq_unwords_of_suffix {ws : List Text} (h : ∀ w ∈ ws, IsWord w) :
    ∀ {a b : Text}, unwords ws = a ++ b →
      ∃ q vs, (∀ c ∈ q, isBlank c = false) ∧ (∀ w ∈ vs, IsWord w) ∧ b = unwords (q :: vs) := by
  -- on the words: the cut is in the first one, before the space behind it, or further on
  induction ws with
  | nil =>
      intro a b hab
      obtain ⟨-, rfl⟩ := List.append_eq_nil_iff.mp hab.symm
      exact ⟨[], [], by simp, by simp, rfl⟩
  | cons v vs ih =>
      intro a b hab
      have hv : IsWord v := h v List.mem_cons_self
      have hvs : ∀ w ∈ vs, IsWord w := fun w hw => h w (List.mem_cons_of_mem v hw)
      by_cases hne : vs = []
      · subst hne
        rw [unwords_singleton] at hab
        refine ⟨b, [], fun c hc => hv.solid c ?_, by simp, (unwords_singleton b).symm⟩
        rw [hab]
        exact List.mem_append_right a hc
      · rw [unwords_cons_of_ne_nil v hne] at hab
        rcases List.append_eq_append_iff.mp hab with ⟨a', rfl, hb⟩ | ⟨q, rfl, rfl⟩
        · cases a' with
          | nil =>
              refine ⟨[], vs, by simp, hvs, ?_⟩
              rw [unwords_cons_of_ne_nil [] hne]
              exact hb.symm
          | cons d ds => exact ih hvs (List.cons.inj hb).2
        · refine ⟨q, vs, fun c hc => hv.solid c (List.mem_append_right a hc), hvs, ?_⟩
          rw [unwords_cons_of_ne_nil q hne]

/-- A piece of a word that may be empty, as words. -/
theorem words_of_solid {q : Text} (hq : ∀ c ∈ q, isBlank c = false) :
    q = [] ∧ q.words = [] ∨ IsWord q ∧ q.words = [q] := by
  by_cases hne : q = []
  · subst hne
    exact Or.inl ⟨rfl, words_nil⟩
  · exact Or.inr ⟨⟨hne, hq⟩, words_of_isWord ⟨hne, hq⟩⟩

/-- Behind a cut, trimming drops what is left of a word if nothing is. -/
theorem trim_unwords_cons {q : Text} {vs : List Text} (hq : ∀ c ∈ q, isBlank c = false)
    (hvs : ∀ w ∈ vs, IsWord w) : (unwords (q :: vs)).trim = unwords (q.words ++ vs) := by
  obtain ⟨rfl, hwords⟩ | ⟨hword, hwords⟩ := words_of_solid hq
  · rw [hwords, List.nil_append]
    by_cases hne : vs = []
    · subst hne
      rfl
    · rw [unwords_cons_of_ne_nil [] hne, List.nil_append, trim_cons_blank rfl, trim_unwords hvs]
  · rw [hwords]
    exact trim_unwords (List.forall_mem_cons.mpr ⟨hword, hvs⟩)

/-- And so it does in front of one. -/
theorem trim_unwords_concat {us : List Text} {q : Text} (hus : ∀ w ∈ us, IsWord w)
    (hq : ∀ c ∈ q, isBlank c = false) : (unwords (us ++ [q])).trim = unwords (us ++ q.words) := by
  obtain ⟨rfl, hwords⟩ | ⟨hword, hwords⟩ := words_of_solid hq
  · rw [hwords, List.append_nil]
    by_cases hne : us = []
    · subst hne
      rfl
    · rw [unwords_append hne (List.cons_ne_nil [] []), unwords_singleton, trim_concat_blank _ rfl,
        trim_unwords hus]
  · rw [hwords]
    exact trim_unwords (List.forall_mem_append.mpr ⟨hus, List.forall_mem_singleton.mpr hword⟩)

/-- **What is trimmed behind a cut is words joined with spaces.** -/
theorem trim_of_suffix {ws : List Text} (h : ∀ w ∈ ws, IsWord w) {a b : Text}
    (hab : unwords ws = a ++ b) : ∃ us, (∀ u ∈ us, IsWord u) ∧ b.trim = unwords us := by
  obtain ⟨q, vs, hq, hvs, rfl⟩ := eq_unwords_of_suffix h hab
  exact ⟨q.words ++ vs, List.forall_mem_append.mpr ⟨fun u hu => mem_words hu, hvs⟩,
    trim_unwords_cons hq hvs⟩

/-! ### Cutting at the first of a kind -/

theorem cutFirst_append {p : Char → Bool} {a : Text} (ha : ∀ c ∈ a, p c = false) {sep : Char}
    (hsep : p sep = true) (b : Text) : cutFirst p (a ++ sep :: b) = some (a, b) := by
  induction a with
  | nil => rw [List.nil_append, cutFirst, if_pos hsep]
  | cons c cs ih =>
      rw [List.cons_append, cutFirst, if_neg (by simp [ha c]), ih fun d hd => ha d (by simp [hd])]
      rfl

theorem cutFirst_eq_none_iff {sep : Char} {t : Text} :
    cutFirst (· == sep) t = none ↔ sep ∉ t := by
  induction t with
  | nil => simp [cutFirst]
  | cons c cs ih =>
      rw [cutFirst]
      by_cases hc : c = sep
      · simp [hc]
      · simp [hc, ih, eq_comm (a := sep)]

theorem eq_of_cutFirst {p : Char → Bool} {t a b : Text} (h : cutFirst p t = some (a, b)) :
    (∀ c ∈ a, p c = false) ∧ ∃ sep, t = a ++ sep :: b := by
  induction t generalizing a with
  | nil => cases h
  | cons c cs ih =>
      rw [cutFirst] at h
      split at h
      · obtain ⟨rfl, rfl⟩ := Prod.mk.inj (Option.some.inj h)
        exact ⟨by simp, c, rfl⟩
      · next hc =>
          obtain ⟨⟨a', b'⟩, hcs, hab⟩ := Option.map_eq_some_iff.mp h
          obtain ⟨rfl, rfl⟩ := Prod.mk.inj hab
          obtain ⟨ha', sep, rfl⟩ := ih hcs
          refine ⟨?_, sep, rfl⟩
          intro d hd
          rcases List.mem_cons.mp hd with rfl | hd
          · simpa using hc
          · exact ha' d hd

/-! ### Lines -/

/-- Lines that hold no line end come back, and an empty piece behind the last. -/
theorem cut_lines {p : Char → Bool} {sep : Char} (hsep : p sep = true) {ls : List Text}
    (h : ∀ l ∈ ls, ∀ c ∈ l, p c = false) :
    cut p (ls.flatMap (· ++ [sep])) = ls ++ [[]] := by
  induction ls with
  | nil => rfl
  | cons l ls ih =>
      rw [List.flatMap_cons, List.append_assoc, List.singleton_append, cut_append_sep hsep,
        cut_eq_self (h l List.mem_cons_self), ih fun m hm => h m (List.mem_cons_of_mem l hm)]
      rfl

end Text

end AliasShell
