/-
White space in an expression.

Before an expression is computed it is taken apart into words, and these are joined
with single spaces again.  That must not show: no matter which white space stands
between two words, and how much of it, the tokens are the same, and so is the error
of a text that has none.

A number or a name never reaches across white space, so the tokens of a text are
those of its words one after another: `tokens_eq_tokensOf`.  The words are all that
is left of a text when its spacing is forgotten, and `evaluateText_respaced` says
that they are all that its value depends on.
-/
import AliasShell.Calc.Reader
import AliasShell.Proofs.Calc.Spelling
import AliasShell.Proofs.Joined

namespace AliasShell

namespace Token

theorem blank_not_name : ∀ n ∈ blankNumbers, n ≠ '_'.toNat ∧
    Letter.alphabetic.contains n = false ∧ Letter.numeric.contains n = false := by
  decide +kernel

/-- White space ends a number as well as a name. -/
theorem blank_ends {c : Char} (h : isBlank c = true) :
    isNumberChar c = false ∧ continuesName c = false := by
  obtain ⟨hunderscore, hletter, hnumeral⟩ := blank_not_name _ (mem_blankNumbers h)
  constructor
  · have hdigit : isDigit c = false := by
      by_contra hd
      rw [isBlank_of_isDigit (Bool.not_eq_false _ ▸ hd)] at h
      cases h
    have hpoint : c ≠ '.' := by
      rintro rfl
      cases h
    simp [isNumberChar, hdigit, hpoint]
  · have hne : c ≠ '_' := by
      rintro rfl
      exact hunderscore rfl
    simp [continuesName, isLetterOrNumeral, isLetter, hletter, hnumeral, hne]

end Token

open Token

/-- Where a run stops, what follows makes no difference. -/
theorem takeWhile_append_stop {p : Char → Bool} {c : Char} (hc : p c = false) (a b : Text) :
    (a ++ c :: b).takeWhile p = a.takeWhile p ∧
      (a ++ c :: b).dropWhile p = a.dropWhile p ++ c :: b := by
  induction a with
  | nil => simp [hc]
  | cons d ds ih =>
      by_cases hd : p d = true
      · simp [hd, ih]
      · simp [hd]

/-- **White space only separates**: the tokens in front of it, then the tokens behind it, or the
first error of the two. -/
theorem tokens_append_blank {c : Char} (hc : isBlank c = true) (a b : Text) :
    tokens (a ++ c :: b) = do return (← tokens a) ++ (← tokens b) := by
  obtain ⟨hnumber, hname⟩ := blank_ends hc
  induction a using tokens.induct with
  | case1 =>
      rw [List.nil_append, tokens_blank hc, tokens]
      exact (id_map (tokens b)).symm
  | case2 d ds hd ih => rw [List.cons_append, tokens_blank hd, tokens_blank hd, ih]
  | case3 d ds hd hn ih =>
      obtain ⟨htake, hdrop⟩ := takeWhile_append_stop hnumber ds b
      rw [List.cons_append, tokens, if_neg hd, if_pos hn, htake, hdrop, ih, tokens.eq_def (d :: ds)]
      simp only [if_neg hd, if_pos hn, bind_assoc, pure_bind, List.cons_append]
  | case4 d ds hd hn hs ih =>
      obtain ⟨htake, hdrop⟩ := takeWhile_append_stop hname ds b
      rw [List.cons_append, tokens, if_neg hd, if_neg hn, if_pos hs, htake, hdrop, ih,
        tokens.eq_def (d :: ds)]
      simp only [if_neg hd, if_neg hn, if_pos hs, bind_assoc, pure_bind, List.cons_append]
  | case5 d ds hd hn hs token htoken ih =>
      rw [List.cons_append, tokens_symbol htoken, tokens_symbol htoken, ih]
      simp only [bind_assoc]
      rfl
  | case6 d ds hd hn hs htoken =>
      rw [List.cons_append, tokens, if_neg hd, if_neg hn, if_neg hs, htoken, tokens.eq_def (d :: ds)]
      simp only [if_neg hd, if_neg hn, if_neg hs, htoken]
      rfl

/-- The tokens of words, or the error of the first one that has none. -/
def tokensOf : List Text → Except CalcError (List Token)
  | [] => return []
  | w :: ws => do return (← tokens w) ++ (← tokensOf ws)

theorem tokensOf_append (ws vs : List Text) :
    tokensOf (ws ++ vs) = do return (← tokensOf ws) ++ (← tokensOf vs) := by
  induction ws with
  | nil => exact (id_map (tokensOf vs)).symm
  | cons w ws ih =>
      rw [List.cons_append, tokensOf, ih, tokensOf]
      simp only [bind_assoc, pure_bind, List.append_assoc]

theorem tokensOf_of_solid {a : Text} (h : ∀ c ∈ a, isBlank c = false) :
    tokensOf a.words = tokens a := by
  by_cases hne : a = []
  · rw [hne, tokens]
    rfl
  · rw [Text.words_of_isWord ⟨hne, h⟩]
    simp [tokensOf]

/-- **The tokens of a text are those of its words.** -/
theorem tokens_eq_tokensOf (t : Text) : tokens t = tokensOf t.words := by
  -- `a` is what has been read of a word
  have hread : ∀ t a : Text, (∀ c ∈ a, isBlank c = false) →
      tokens (a ++ t) = tokensOf (a ++ t).words := by
    intro t
    induction t with
    | nil =>
        intro a ha
        rw [List.append_nil, tokensOf_of_solid ha]
    | cons c t ih =>
        intro a ha
        cases hc : isBlank c with
        | true =>
            have ht := ih [] (by simp)
            rw [List.nil_append] at ht
            rw [tokens_append_blank hc, Text.words_append_blank hc, tokensOf_append,
              tokensOf_of_solid ha, ht]
        | false =>
            have hsolid : ∀ d ∈ a ++ [c], isBlank d = false := by
              intro d hd
              rcases List.mem_append.mp hd with hd | hd
              · exact ha d hd
              · rwa [List.mem_singleton.mp hd]
            rw [List.append_cons]
            exact ih (a ++ [c]) hsolid
  exact hread t [] (by simp)

/-- Texts with the same words have the same tokens. -/
theorem tokens_congr {a b : Text} (h : a.words = b.words) : tokens a = tokens b := by
  rw [tokens_eq_tokensOf, h, tokens_eq_tokensOf]

/-- **The value of a text depends on its words only**, and so does its error. -/
theorem evaluateText_respaced (t : Text) :
    evaluateText (Text.unwords t.words) = evaluateText t := by
  have hwords : (Text.unwords t.words).words = t.words :=
    Text.words_unwords fun w hw => Text.mem_words hw
  rw [evaluateText, evaluate, tokens_congr hwords]
  rfl

/-- What is printed is the text of the value. -/
theorem evaluateText_eq_ok {t r : Text} :
    evaluateText t = .ok r ↔ ∃ v, evaluate t = .ok v ∧ v.text = r := by
  rw [evaluateText]
  cases evaluate t with
  | ok v =>
      constructor
      · exact fun h => ⟨v, rfl, Except.ok.inj h⟩
      · rintro ⟨w, ⟨⟩, rfl⟩
        rfl
  | error e =>
      constructor
      · rintro ⟨⟩
      · rintro ⟨w, ⟨⟩, -⟩

end AliasShell
