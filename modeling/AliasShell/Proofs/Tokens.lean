/-
What a line is cut into, and what an alias puts in its place.

The shell cuts a line at every `;`, trims the pieces, and cuts each at white
space.  When an alias is replaced the words are joined again, its text is put in
front, and the result is cut from the start.  `tokenLists` is the whole cut at
once: the words of every piece that has any.

Two facts carry the rest.  `tokenLists_eq` says that the commands of a line are
its token lists and nothing else, so trimming and the second cut never show.
`tokenLists_withVerb` says that a replacement can be made on the token lists
themselves: joining and cutting again merges no tokens, splits none, and leaves
the arguments behind the last piece, even where the replacement ends in `;`.
-/
import AliasShell.Command

namespace AliasShell

namespace Text

/-! ### Blanks at the ends

Trimming a piece drops blanks at either end, and blanks separate words, so no word
is lost and none is made.
-/

theorem words_cons_blank {c : Char} (hc : isBlank c = true) (t : Text) :
    words (c :: t) = words t := by
  have h := words_append_blank hc [] t
  rwa [List.nil_append, words_nil, List.nil_append] at h

theorem words_blanks_append {b : Text} (hb : ∀ c ∈ b, isBlank c = true) (t : Text) :
    words (b ++ t) = words t := by
  induction b with
  | nil => rfl
  | cons c cs ih =>
      rw [List.cons_append, words_cons_blank (hb c (by simp))]
      exact ih fun d hd => hb d (by simp [hd])

theorem words_append_blanks (t : Text) {b : Text} (hb : ∀ c ∈ b, isBlank c = true) :
    words (t ++ b) = words t := by
  cases b with
  | nil => rw [List.append_nil]
  | cons c cs =>
      have hcs : words cs = [] := by
        have h := words_blanks_append (fun d hd => hb d (by simp [hd])) (b := cs) []
        rwa [List.append_nil] at h
      rw [words_append_blank (hb c (by simp)), hcs, List.append_nil]

theorem words_trimStart (t : Text) : words t.trimStart = words t := by
  have hb : ∀ c ∈ t.takeWhile isBlank, isBlank c = true := fun c hc =>
    List.all_eq_true.mp List.all_takeWhile c hc
  have h := words_blanks_append hb (t.dropWhile isBlank)
  rw [List.takeWhile_append_dropWhile] at h
  exact h.symm

theorem words_dropEnd (t : Text) : words (t.dropEnd isBlank) = words t := by
  have hb : ∀ c ∈ (t.reverse.takeWhile isBlank).reverse, isBlank c = true := fun c hc =>
    List.all_eq_true.mp List.all_takeWhile c (List.mem_reverse.mp hc)
  have h := words_append_blanks (t.dropEnd isBlank) hb
  rw [dropEnd, ← List.reverse_append, List.takeWhile_append_dropWhile, List.reverse_reverse] at h
  exact h.symm

/-- Trimming keeps the words. -/
theorem words_trim (t : Text) : words t.trim = words t := by
  rw [trim, words_dropEnd, words_trimStart]

/-- White space at the end of a text parts its words from all that follows. -/
theorem words_append_of_blank {gap : Text} (h : ∀ c ∈ gap.getLast?, isBlank c = true) (t : Text) :
    (gap ++ t).words = gap.words ++ t.words := by
  rcases List.eq_nil_or_concat gap with rfl | ⟨g, b, rfl⟩
  · rfl
  · have hb : isBlank b = true := h b (by simp)
    have hend : words (g ++ [b]) = words g := by
      rw [words_append_blank hb, words_nil, List.append_nil]
    rw [List.concat_eq_append, hend, List.append_assoc, List.singleton_append,
      words_append_blank hb]

/-- A word in front of a text that goes on with white space is one of its words. -/
theorem words_append_of_isWord {w : Text} (hw : IsWord w) {t : Text}
    (ht : ∀ c ∈ t.head?, isBlank c = true) : words (w ++ t) = w :: words t := by
  cases t with
  | nil => rw [List.append_nil, words_of_isWord hw, words_nil]
  | cons c cs =>
      have hc : isBlank c = true := ht c rfl
      rw [words_append_blank hc, words_of_isWord hw, words_cons_blank hc]
      rfl

/-! ### Characters of the pieces -/

/-- Cutting makes no characters. -/
theorem mem_of_mem_cut {p : Char → Bool} {t w : Text} (hw : w ∈ cut p t) :
    ∀ c ∈ w, c ∈ t := by
  induction t generalizing w with
  | nil =>
      intro c hc
      rw [cut_nil, List.mem_singleton] at hw
      rwa [hw] at hc
  | cons d ds ih =>
      intro c hc
      simp only [cut] at hw
      split at hw
      · rcases List.mem_cons.mp hw with rfl | hw'
        · simp at hc
        · exact List.mem_cons_of_mem d (ih hw' c hc)
      · rcases mem_consFirst hw hc with rfl | ⟨v, hv, hcv⟩
        · simp
        · exact List.mem_cons_of_mem d (ih hv c hcv)

theorem mem_of_mem_words {t w : Text} (hw : w ∈ words t) : ∀ c ∈ w, c ∈ t :=
  mem_of_mem_cut (List.mem_filter.mp hw).1

theorem mem_unwords {ws : List Text} {c : Char} (hc : c ∈ unwords ws) :
    c = ' ' ∨ ∃ w ∈ ws, c ∈ w := by
  induction ws with
  | nil => simp at hc
  | cons v vs ih =>
      cases vs with
      | nil => exact Or.inr ⟨v, by simp, by simpa using hc⟩
      | cons w ws =>
          rw [unwords_cons_cons, List.mem_append, List.mem_cons] at hc
          rcases hc with hv | rfl | hws
          · exact Or.inr ⟨v, by simp, hv⟩
          · exact Or.inl rfl
          · rcases ih hws with hsp | ⟨u, hu, hcu⟩
            · exact Or.inl hsp
            · exact Or.inr ⟨u, List.mem_cons_of_mem v hu, hcu⟩

theorem flatten_cut (p : Char → Bool) (t : Text) : (t.cut p).flatten = t.filter fun c => !p c := by
  induction t with
  | nil => rfl
  | cons c cs ih =>
      rw [cut]
      split
      · next hc => rw [List.flatten_cons, ih, List.filter_cons_of_neg (by simp [hc])]; rfl
      · next hc =>
          obtain ⟨w, ws, hcut⟩ := List.exists_cons_of_ne_nil (cut_ne_nil p cs)
          rw [List.filter_cons_of_pos (by simp [hc]), ← ih, hcut]
          rfl

/-- Words are what a text holds besides white space. -/
theorem flatten_words (t : Text) : t.words.flatten = t.filter fun c => !isBlank c := by
  rw [words, List.flatten_filter_not_isEmpty, flatten_cut]

theorem words_ne_nil {t : Text} (h : ∃ c ∈ t, isBlank c = false) : t.words ≠ [] := by
  obtain ⟨c, hc, hsolid⟩ := h
  intro hnil
  have hmem : c ∈ t.filter fun c => !isBlank c := List.mem_filter.mpr ⟨hc, by simp [hsolid]⟩
  rw [← flatten_words, hnil] at hmem
  cases hmem

/-! ### More behind the last piece -/

/-- `xs` behind the last of the lists. -/
def appendLast {α : Type} (xs : List α) : List (List α) → List (List α)
  | [] => [xs]
  | [l] => [l ++ xs]
  | l :: m :: ls => l :: appendLast xs (m :: ls)

@[simp] theorem appendLast_nil {α : Type} {ls : List (List α)} (h : ls ≠ []) :
    appendLast [] ls = ls := by
  induction ls with
  | nil => exact absurd rfl h
  | cons l ls ih =>
      cases ls with
      | nil => simp [appendLast]
      | cons m ls => rw [appendLast, ih (by simp)]

/-- A function that takes what is appended apart from the rest goes under `appendLast`. -/
theorem map_appendLast {α β : Type} {f : List α → List β} {xs : List α} {ys : List β}
    (hf : ∀ l, f (l ++ xs) = f l ++ ys) {ls : List (List α)} (h : ls ≠ []) :
    (appendLast xs ls).map f = appendLast ys (ls.map f) := by
  induction ls with
  | nil => exact absurd rfl h
  | cons l ls ih =>
      cases ls with
      | nil => simp [appendLast, hf]
      | cons m ls =>
          rw [appendLast, List.map_cons, ih (by simp)]
          rfl

theorem consFirst_appendLast (c : Char) (b : Text) {ws : List Text} (h : ws ≠ []) :
    consFirst c (appendLast b ws) = appendLast b (consFirst c ws) := by
  cases ws with
  | nil => exact absurd rfl h
  | cons v vs => cases vs <;> rfl

/-- Text without separators lengthens the last piece. -/
theorem cut_append {p : Char → Bool} (a : Text) {b : Text} (hb : ∀ c ∈ b, p c = false) :
    cut p (a ++ b) = appendLast b (cut p a) := by
  induction a with
  | nil => simpa [appendLast] using cut_eq_self hb
  | cons c cs ih =>
      simp only [List.cons_append, cut, ih]
      split
      · obtain ⟨v, vs, hvs⟩ := List.exists_cons_of_ne_nil (cut_ne_nil p cs)
        rw [hvs]
        rfl
      · exact consFirst_appendLast c b (cut_ne_nil p cs)

end Text

/-! ### Tokens -/

/-- A token is a word without a `;`. -/
structure IsToken (w : Text) : Prop extends Text.IsWord w where
  /-- the separator is not in it -/
  whole : ';' ∉ w

/-- Decided on the characters of the word, never on all characters there are. -/
instance (w : Text) : Decidable (IsToken w) :=
  decidable_of_iff (w ≠ [] ∧ w.all (fun c => !isBlank c) = true ∧ ';' ∉ w)
    ⟨fun ⟨hne, hs, hw⟩ => ⟨⟨hne, by simpa using hs⟩, hw⟩,
      fun h => ⟨h.ne_nil, by simpa using h.solid, h.whole⟩⟩

namespace Command

theorem not_mem_separator_iff {t : Text} : ';' ∉ t ↔ ∀ c ∈ t, isSeparator c = false := by
  simp only [isSeparator, beq_eq_false_iff_ne, ne_eq]
  exact ⟨fun h c hc hs => h (hs ▸ hc), fun h hs => h ';' hs rfl⟩

/-- The words of every piece of a text, blank pieces included. -/
def pieces (t : Text) : List (List Text) := (t.cut isSeparator).map Text.words

/-- The lists that hold something. -/
def dropEmpty (ls : List (List Text)) : List (List Text) := ls.filter fun l => !l.isEmpty

end Command

/-- The tokens of a line, one list for each of its commands. -/
def tokenLists (line : Text) : List (List Text) := Command.dropEmpty (Command.pieces line)

open Command

theorem pieces_ne_nil (t : Text) : pieces t ≠ [] := by
  simpa [pieces] using Text.cut_ne_nil isSeparator t

/-- **The commands of a line are its token lists.** -/
theorem tokenLists_eq (line : Text) : tokenLists line = (commands line).map toWords := by
  unfold tokenLists pieces dropEmpty commands segments
  induction line.cut isSeparator with
  | nil => rfl
  | cons p ps ih =>
      have hp : p.trim.words = p.words := Text.words_trim p
      simp only [List.map_cons, List.filter_cons]
      -- a piece without words is left out by both sides, be it trimmed to nothing or not
      cases hws : p.words with
      | nil =>
          rw [if_neg (by simp), ih]
          split
          · rw [List.filterMap_cons_none (by rw [parse?, hp, hws]; rfl)]
          · rfl
      | cons v vs =>
          have hne : p.trim ≠ [] := by
            intro h0
            rw [h0, Text.words_nil, hws] at hp
            cases hp
          rw [if_pos (by simp), if_pos (by simpa using hne),
            List.filterMap_cons_some (b := ⟨v, vs⟩) (by rw [parse?, hp, hws]; rfl), ih]
          rfl

/-- And its token lists are its commands. -/
theorem commands_eq (line : Text) : commands line = (tokenLists line).filterMap ofWords? := by
  have hback : ofWords? ∘ toWords = some := funext ofWords?_toWords
  rw [tokenLists_eq, List.filterMap_map, hback, List.filterMap_some]

/-- Lines with the same tokens have the same commands. -/
theorem commands_congr {a b : Text} (h : tokenLists a = tokenLists b) :
    commands a = commands b := by
  rw [commands_eq, commands_eq, h]

/-- Every word of a command is a token. -/
theorem isToken_of_mem_commands {line : Text} {c : Command} (hc : c ∈ commands line) :
    ∀ w ∈ c.toWords, IsToken w := by
  intro w hw
  have hmem : c.toWords ∈ tokenLists line := by
    rw [tokenLists_eq]
    exact List.mem_map_of_mem hc
  obtain ⟨p, hp, hpw⟩ := List.mem_map.mp (List.mem_filter.mp hmem).1
  rw [← hpw] at hw
  refine ⟨Text.mem_words hw, not_mem_separator_iff.mpr fun d hd => ?_⟩
  exact Text.mem_cut hp d (Text.mem_of_mem_words hw d hd)

theorem isToken_of_mem_args {line : Text} {c : Command} (hc : c ∈ commands line) :
    ∀ w ∈ c.args, IsToken w := fun w hw =>
  isToken_of_mem_commands hc w (List.mem_cons_of_mem c.verb hw)

/-! ### The tokens of a text that is put together -/

/-- A `;` between two lines puts their commands one after another. -/
theorem commands_separator (a b : Text) :
    commands (a ++ ';' :: b) = commands a ++ commands b := by
  simp [commands, segments, Text.cut_append_sep (show isSeparator ';' = true from rfl)]

theorem separator_not_mem_unwords {ts : List Text} (h : ∀ w ∈ ts, IsToken w) :
    ';' ∉ Text.unwords ts := by
  intro hsep
  rcases Text.mem_unwords hsep with hsp | ⟨w, hw, hmem⟩
  · cases hsp
  · exact (h w hw).whole hmem

/-- Arguments behind a text stand behind the last of its pieces. -/
theorem pieces_append_args (r : Text) {args : List Text} (h : ∀ w ∈ args, IsToken w) :
    pieces (r ++ ' ' :: Text.unwords args) = Text.appendLast args (pieces r) := by
  have hsep : ';' ∉ ' ' :: Text.unwords args := by
    simpa using separator_not_mem_unwords h
  have hwords : ∀ p : Text, (p ++ ' ' :: Text.unwords args).words = p.words ++ args := by
    intro p
    rw [Text.words_append_blank rfl, Text.words_unwords fun w hw => (h w hw).toIsWord]
  rw [pieces, Text.cut_append r (not_mem_separator_iff.mp hsep),
    Text.map_appendLast hwords (Text.cut_ne_nil isSeparator r), pieces]

/-- **A replacement can be made on the tokens**: its pieces, the arguments behind the last one. -/
theorem tokenLists_withVerb {c : Command} (h : ∀ w ∈ c.args, IsToken w) (r : Text) :
    tokenLists (c.withVerb r) = dropEmpty (Text.appendLast c.args (pieces r)) := by
  rw [tokenLists, withVerb, pieces_append_args r h]

/-- A text followed by tokens is cut as if it stood for the verb of a command. -/
theorem tokenLists_unwords_cons (r : Text) {args : List Text} (h : ∀ w ∈ args, IsToken w) :
    tokenLists (Text.unwords (r :: args)) = dropEmpty (Text.appendLast args (pieces r)) := by
  cases args with
  | nil => rw [Text.unwords_singleton, Text.appendLast_nil (pieces_ne_nil r), tokenLists]
  | cons w ws => rw [Text.unwords_cons_cons, tokenLists, pieces_append_args r h]

/-- A text without `;` is one piece. -/
theorem pieces_of_not_mem {t : Text} (h : ';' ∉ t) : pieces t = [t.words] := by
  rw [pieces, Text.cut_eq_self (not_mem_separator_iff.mp h)]
  rfl

/-- And so it is one command at most: its words. -/
theorem commands_of_not_mem {t : Text} (h : ';' ∉ t) : commands t = (ofWords? t.words).toList := by
  rw [commands_eq, tokenLists, pieces_of_not_mem h]
  cases t.words with
  | nil => rfl
  | cons v vs => rfl

/-- A replacement without `;` makes one command at most: its words, then the arguments. -/
theorem commands_withVerb_of_not_mem {c : Command} (h : ∀ w ∈ c.args, IsToken w) {r : Text}
    (hr : ';' ∉ r) : commands (c.withVerb r) = (ofWords? (r.words ++ c.args)).toList := by
  rw [commands_eq, tokenLists_withVerb h, pieces_of_not_mem hr, Text.appendLast]
  cases r.words ++ c.args with
  | nil => rfl
  | cons v vs => rfl

/-- Tokens joined to a line are the one command of it. -/
theorem commands_unwords {c : Command} (h : ∀ w ∈ c.toWords, IsToken w) :
    commands (Text.unwords c.toWords) = [c] := by
  rw [commands_of_not_mem (separator_not_mem_unwords h),
    Text.words_unwords fun w hw => (h w hw).toIsWord, ofWords?_toWords]
  rfl

end AliasShell
