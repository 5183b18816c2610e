/-
White space, and what hangs on it: trimming and words.

`isBlank` is the Unicode property White_Space, so a no-break space or an ideographic
space separates words as a space does, and a zero width space does not.  `words`
keeps the pieces of `cut isBlank` that hold something; `mem_words` says what a word
is, and `words_unwords` that joining words with spaces and cutting again gives the
words back.
-/
import AliasShell.Text.Basic

namespace AliasShell

/-- The property White_Space. -/
def isBlank (c : Char) : Bool :=
  let n := c.toNat
  (0x09 ≤ n && n ≤ 0x0D) || n == 0x20 || n == 0x85 || n == 0xA0 || n == 0x1680 ||
    (0x2000 ≤ n && n ≤ 0x200A) || n == 0x2028 || n == 0x2029 || n == 0x202F || n == 0x205F ||
    n == 0x3000

namespace Text

/-! ### Trimming -/

/-- The text without the blanks it begins with. -/
def trimStart (t : Text) : Text := t.dropWhile isBlank

/-- The text without the characters `p` picks at its end. -/
def dropEnd (p : Char → Bool) (t : Text) : Text := (t.reverse.dropWhile p).reverse

/-- The text without the blanks at either end. -/
def trim (t : Text) : Text := dropEnd isBlank (trimStart t)

/-! ### Words -/

/-- The longest pieces free of white space. -/
def words (t : Text) : List Text := (cut isBlank t).filter fun w => !w.isEmpty

@[simp] theorem words_nil : words [] = [] := rfl

/-- A word is not empty and holds no white space. -/
structure IsWord (w : Text) : Prop where
  /-- there is something in it -/
  ne_nil : w ≠ []
  /-- and none of it is blank -/
  solid : ∀ c ∈ w, isBlank c = false

theorem mem_words {t w : Text} (h : w ∈ words t) : IsWord w := by
  obtain ⟨hcut, hne⟩ := List.mem_filter.mp h
  exact ⟨by simpa using hne, mem_cut hcut⟩

theorem words_append_blank {c : Char} (hc : isBlank c = true) (a b : Text) :
    words (a ++ c :: b) = words a ++ words b := by
  simp [words, cut_append_sep hc]

theorem words_of_isWord {w : Text} (h : IsWord w) : words w = [w] := by
  simp [words, cut_eq_self h.solid, h.ne_nil]

/-- Joining words with spaces loses none and makes none. -/
theorem words_unwords {ws : List Text} (h : ∀ w ∈ ws, IsWord w) : words (unwords ws) = ws := by
  induction ws with
  | nil => rfl
  | cons v ws ih =>
    cases ws with
    | nil => simpa using words_of_isWord (h v (by simp))
    | cons w ws =>
      rw [unwords_cons_cons, words_append_blank rfl, words_of_isWord (h v (by simp)),
        ih fun u hu => h u (by simp [hu])]
      rfl

end Text

end AliasShell
