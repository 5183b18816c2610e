/-
Text, and the cutting and joining that every other module is made of.

Text is a list of characters.  All rules of the shell speak of characters one
after another, so a list is what they recurse on, and a string is only what the
outer layer reads and prints.  `cut` takes a text apart at the characters a test
picks; `words`, the segments of a line and the parts of a path are all `cut` with
some pieces left out.  `cut_append_sep` and `mem_cut` are the two facts about it
that the rest lives on.
-/

namespace AliasShell

/-- Text is a list of characters. -/
abbrev Text := List Char

/-- A string literal stands for its characters. -/
instance : Coe String Text := ⟨String.toList⟩

/-- Texts are told apart in tables by the numbers of their characters. -/
instance (priority := 2000) : Hashable Text :=
  ⟨fun t => t.foldl (fun h c => mixHash h c.val.toUInt64) 7⟩

namespace Text

/-! ### Cutting -/

/-- `c` in front of the first piece. -/
def consFirst (c : Char) : List Text → List Text
  | [] => [[c]]
  | w :: ws => (c :: w) :: ws

/-- The pieces of a text between the characters `p` picks, empty pieces included. -/
def cut (p : Char → Bool) : Text → List Text
  | [] => [[]]
  | c :: cs => if p c then [] :: cut p cs else consFirst c (cut p cs)

/-- The two sides of the first character `p` picks; `none` when it picks none. -/
def cutFirst (p : Char → Bool) : Text → Option (Text × Text)
  | [] => none
  | c :: cs =>
    if p c then some ([], cs) else (cutFirst p cs).map fun (a, b) => (c :: a, b)

/-- The two sides of the last character `p` picks, which stays with the left side; `none` when it
picks none. -/
def cutLast (p : Char → Bool) : Text → Option (Text × Text)
  | [] => none
  | c :: cs =>
    match cutLast p cs with
    | some (a, b) => some (c :: a, b)
    | none => if p c then some ([c], cs) else none

@[simp] theorem cut_nil (p : Char → Bool) : cut p [] = [[]] := rfl

theorem cut_ne_nil (p : Char → Bool) (t : Text) : cut p t ≠ [] := by
  cases t with
  | nil => simp
  | cons c cs =>
    simp only [cut]
    split
    · simp
    · cases cut p cs <;> simp [consFirst]

theorem consFirst_append {ws : List Text} (c : Char) (vs : List Text) (h : ws ≠ []) :
    consFirst c ws ++ vs = consFirst c (ws ++ vs) := by
  cases ws with
  | nil => exact absurd rfl h
  | cons w ws => rfl

/-- Cutting goes through a separator: the pieces left of it, then the pieces right of it. -/
theorem cut_append_sep {p : Char → Bool} {sep : Char} (h : p sep = true) (a b : Text) :
    cut p (a ++ sep :: b) = cut p a ++ cut p b := by
  induction a with
  | nil => simp [cut, h]
  | cons c cs ih =>
    simp only [List.cons_append, cut, ih]
    split
    · rfl
    · exact (consFirst_append c _ (cut_ne_nil p cs)).symm

/-- A text without separators is one piece. -/
theorem cut_eq_self {p : Char → Bool} {t : Text} (h : ∀ c ∈ t, p c = false) : cut p t = [t] := by
  induction t with
  | nil => rfl
  | cons c cs ih =>
    have hc : p c = false := h c (by simp)
    simp [cut, hc, ih fun d hd => h d (by simp [hd]), consFirst]

theorem mem_consFirst {c d : Char} {w : Text} {ws : List Text} (hw : w ∈ consFirst c ws)
    (hd : d ∈ w) : d = c ∨ ∃ v ∈ ws, d ∈ v := by
  cases ws with
  | nil =>
    have hw' : w = [c] := by simpa [consFirst] using hw
    subst hw'
    exact Or.inl (by simpa using hd)
  | cons v vs =>
    rcases List.mem_cons.mp (show w ∈ (c :: v) :: vs from hw) with rfl | hvs
    · rcases List.mem_cons.mp hd with rfl | hv
      · exact Or.inl rfl
      · exact Or.inr ⟨v, by simp, hv⟩
    · exact Or.inr ⟨w, by simp [hvs], hd⟩

/-- No piece holds a separator. -/
theorem mem_cut {p : Char → Bool} {t w : Text} (hw : w ∈ cut p t) : ∀ c ∈ w, p c = false := by
  induction t generalizing w with
  | nil => simp at hw; simp [hw]
  | cons c cs ih =>
    simp only [cut] at hw
    intro d hd
    split at hw
    · rcases List.mem_cons.mp hw with rfl | hw'
      · simp at hd
      · exact ih hw' d hd
    · next hc =>
      rcases mem_consFirst hw hd with rfl | ⟨v, hv, hdv⟩
      · simpa using hc
      · exact ih hv d hdv

/-! ### Joining -/

/-- The texts one after another with a space between them. -/
def unwords (ws : List Text) : Text := [' '].intercalate ws

@[simp] theorem unwords_nil : unwords [] = [] := rfl

@[simp] theorem unwords_singleton (w : Text) : unwords [w] = w := by
  simp [unwords, List.intercalate, List.intersperse]

theorem unwords_cons_cons (v w : Text) (ws : List Text) :
    unwords (v :: w :: ws) = v ++ ' ' :: unwords (w :: ws) := by
  simp [unwords, List.intercalate, List.intersperse]

/-! ### Comparing -/

/-- `a` is how `t` begins. -/
def startsWith (t a : Text) : Bool := a.isPrefixOf t

/-- The order of texts: by the first character in which they differ, a beginning before the whole.
The characters' encodings in bytes are ordered the same way. -/
def le (a b : Text) : Bool := !decide (b < a)

/-- Upper case letters of the English alphabet become lower case; other characters stay. -/
def toLower (t : Text) : Text := t.map Char.toLower

end Text

end AliasShell
