/-
The word before the cursor, and the token that it becomes.

Completing looks back from the cursor: to the last `;`, and from there to the last white
space.  Running a line goes forward: it is cut at every `;`, trimmed, and cut at white
space.  Here it is shown that both see the same word.  Type one more letter: what was
before the cursor is then the front of the last token of the line, and the token is the
verb of its command exactly when a verb was completed.

What is looked back for is the longest end without some characters.  In front of such an
end stands nothing, or something that ends with a character that separates, and there a
cut goes through: `words_append_of_blank` and `commands_append_of_separator`.
-/
import AliasShell.Completion.Line
import AliasShell.Proofs.Ends
import AliasShell.Proofs.Tokens

namespace AliasShell

namespace Text

/-! ### Places in a text -/

theorem byteLength_append (a b : Text) : (a ++ b).byteLength = a.byteLength + b.byteLength := by
  rw [byteLength, encode_append, List.length_append]
  rfl

/-- The place of this number of bytes lies between characters. -/
def IsBoundary (t : Text) (n : Nat) : Prop := ∃ a b, t = a ++ b ∧ a.byteLength = n

/-- As many bytes as a beginning has are that beginning. -/
theorem takeBytes_byteLength (a b : Text) : (a ++ b).takeBytes a.byteLength = a := by
  induction a with
  | nil =>
      cases b with
      | nil => rfl
      | cons c cs =>
          have hwidth : ¬ (String.utf8EncodeChar c).length ≤ 0 := by
            rw [String.length_utf8EncodeChar]
            have hpos := c.utf8Size_pos
            omega
          exact if_neg hwidth
  | cons c cs ih =>
      have hsum : byteLength (c :: cs) = (String.utf8EncodeChar c).length + byteLength cs := by
        rw [byteLength, encode, List.flatMap_cons, List.length_append]
        rfl
      rw [List.cons_append, takeBytes, hsum]
      simp only [Nat.le_add_right, if_true, Nat.add_sub_cancel_left, ih]

/-! ### Cuts at an end -/

/-- Nothing is left of a text without words, and of no other. -/
theorem trim_eq_nil_iff {t : Text} : t.trim = [] ↔ t.words = [] := by
  constructor
  · intro h
    rw [← words_trim, h, words_nil]
  · intro h
    have hblank : ∀ c ∈ t, isBlank c = true := by
      intro c hc
      cases hsolid : isBlank c with
      | true => rfl
      | false => exact absurd h (words_ne_nil ⟨c, hc, hsolid⟩)
    rw [trim, trimStart, List.dropWhile_eq_nil_iff.mpr hblank]
    rfl

end Text

/-- A `;` at the end of a text parts its commands from all that follows. -/
theorem commands_append_of_separator {front : Text}
    (h : ∀ c ∈ front.getLast?, Command.isSeparator c = true) (t : Text) :
    commands (front ++ t) = commands front ++ commands t := by
  rcases List.eq_nil_or_concat front with rfl | ⟨f, s, rfl⟩
  · rfl
  · obtain rfl : s = ';' := by simpa [Command.isSeparator] using h s (by simp)
    have hend : commands (f ++ [';']) = commands f := by
      rw [commands_separator]
      exact List.append_nil _
    rw [List.concat_eq_append, hend, List.append_assoc, List.singleton_append,
      commands_separator]

namespace Command

/-- Words of which the last one is `w` are a command; `w` is its verb if it is the only word. -/
theorem exists_ofWords?_concat (ws : List Text) (w : Text) :
    ∃ command, ofWords? (ws ++ [w]) = some command ∧ (ws = [] → command = ⟨w, []⟩) ∧
      (ws ≠ [] → command.args ≠ [] ∧ command.args.getLast? = some w) := by
  cases ws with
  | nil => exact ⟨⟨w, []⟩, rfl, fun _ => rfl, fun hne => absurd rfl hne⟩
  | cons v vs =>
      refine ⟨⟨v, vs ++ [w]⟩, rfl, fun hnil => absurd hnil (List.cons_ne_nil v vs), fun _ => ?_⟩
      exact ⟨List.concat_ne_nil w vs, List.getLast?_concat⟩

end Command

namespace Completer

open Text

/-! ### The line up to the cursor -/

/-- The line up to the cursor in three parts: `front` up to its last `;`, `ahead` from there up to
the last white space, and the word. -/
structure Parted (before front ahead word : Text) : Prop where
  whole : before = front ++ (ahead ++ word)
  cut : ∀ c ∈ front.getLast?, Command.isSeparator c = true
  gap : ∀ c ∈ ahead.getLast?, isBlank c = true
  segment : lastSegment before = ahead ++ word
  tail : lastWord (ahead ++ word) = word

theorem isTail_lastSegment (before : Text) :
    IsTail Command.isSeparator before (lastSegment before) := isTail_rtakeWhile _ before

theorem isTail_lastWord (segment : Text) : IsTail isBlank segment (lastWord segment) :=
  isTail_rtakeWhile _ segment

theorem exists_parted (before : Text) : ∃ front ahead word, Parted before front ahead word := by
  obtain ⟨front, hwhole, hfront⟩ := (isTail_lastSegment before).exists_front
  obtain ⟨ahead, hsegment, hahead⟩ := (isTail_lastWord (lastSegment before)).exists_front
  refine ⟨front, ahead, lastWord (lastSegment before), ?_, hfront, hahead, hsegment, ?_⟩
  · rw [← hsegment, ← hwhole]
  · rw [← hsegment]

namespace Parted

variable {before front ahead word : Text}

/-- A verb is completed where no word stands ahead, and a path otherwise. -/
theorem cursorWord_eq (h : Parted before front ahead word) :
    cursorWord before = if ahead.words = [] then .verb word else .path word := by
  have htake : (ahead ++ word).take ((ahead ++ word).length - word.length) = ahead := by
    rw [List.length_append, Nat.add_sub_cancel, List.take_left]
  rw [cursorWord, h.segment]
  simp only [h.tail, htake, List.isEmpty_iff, trim_eq_nil_iff]

theorem text_cursorWord (h : Parted before front ahead word) : (cursorWord before).text = word := by
  rw [h.cursorWord_eq]
  split
  · rfl
  · rfl

/-- The completion begins where the word does. -/
theorem start_complete (h : Parted before front ahead word) (c : Completer) (fs : Files) :
    (c.complete fs before).start = (front ++ ahead).byteLength := by
  show before.byteLength - (cursorWord before).text.byteLength = _
  rw [h.text_cursorWord, h.whole, ← List.append_assoc, byteLength_append (front ++ ahead),
    Nat.add_sub_cancel]

/-- The words of the last piece of the line, when one more letter is typed. -/
theorem words_append (h : Parted before front ahead word) :
    words ((ahead ++ word) ++ ['x']) = ahead.words ++ [word ++ ['x']] := by
  have hword : IsWord (word ++ ['x']) := by
    refine ⟨List.concat_ne_nil 'x' word, fun d hd => ?_⟩
    rcases List.mem_append.mp hd with hd | hd
    · exact (h.tail ▸ isTail_lastWord (ahead ++ word)).free d hd
    · rw [List.mem_singleton.mp hd]
      rfl
  rw [List.append_assoc, words_append_of_blank h.gap, words_of_isWord hword]

/-- The commands of the line, when one more letter is typed. -/
theorem commands_append (h : Parted before front ahead word) :
    commands (before ++ ['x']) =
      commands front ++ (Command.parse? ((ahead ++ word) ++ ['x'])).toList := by
  have hwhole : ';' ∉ (ahead ++ word) ++ ['x'] := by
    have hfree := (h.segment ▸ isTail_lastSegment before).free
    rw [List.mem_append]
    rintro (hmem | hmem)
    · exact Command.not_mem_separator_iff.mpr hfree hmem
    · exact absurd (List.mem_singleton.mp hmem) (by decide)
  rw [h.whole, List.append_assoc, commands_append_of_separator h.cut,
    commands_of_not_mem hwhole, Command.parse?]

end Parted

/-! ### The word and the token -/

/-- **What is completed is the token that would be read.**  Let the cursor stand between two
characters of a line.  Then `word` is the longest end without white space of what stands between
the last `;` and the cursor; it begins where the completion says, between two characters as well,
and it ends at the cursor.

Read on with a letter, that piece of the line holds a command, and it is the last one that the
line holds up to there.  If the command has no arguments, its verb is the word with the letter, and
the word is completed as a verb.  If it has some, the last of them is the word with the letter, and
the word is completed as a path. -/
theorem complete_cursor (c : Completer) (fs : Files) {line : Text} {pos : Nat}
    (h : line.IsBoundary pos) :
    let before := line.takeBytes pos
    let start := (c.complete fs before).start
    ∃ segment word command,
      IsTail Command.isSeparator before segment ∧ IsTail isBlank segment word ∧
      start ≤ pos ∧ line.IsBoundary start ∧ before = line.takeBytes start ++ word ∧
      Command.parse? (segment ++ ['x']) = some command ∧
      (commands (before ++ ['x'])).getLast? = some command ∧
      (command.args = [] → command.verb = word ++ ['x'] ∧ cursorWord before = .verb word ∧
        (c.complete fs before).candidates = c.verbs.complete word) ∧
      (command.args ≠ [] → command.args.getLast? = some (word ++ ['x']) ∧
        cursorWord before = .path word ∧
        (c.complete fs before).candidates = c.paths.complete fs word) := by
  obtain ⟨before, after, rfl, rfl⟩ := h
  obtain ⟨front, ahead, word, hparted⟩ := exists_parted before
  obtain ⟨command, hcommand, hverb, hargs⟩ :=
    Command.exists_ofWords?_concat ahead.words (word ++ ['x'])
  have hparse : Command.parse? ((ahead ++ word) ++ ['x']) = some command := by
    rw [Command.parse?, hparted.words_append, hcommand]
  have hfront : before = (front ++ ahead) ++ word := by rw [hparted.whole, List.append_assoc]
  have hline : before ++ after = (front ++ ahead) ++ (word ++ after) := by
    rw [hfront, List.append_assoc]
  rw [takeBytes_byteLength]
  intro before' start
  have hstart : start = (front ++ ahead).byteLength := hparted.start_complete c fs
  refine ⟨ahead ++ word, word, command, hparted.segment ▸ isTail_lastSegment before, ?_, ?_, ?_, ?_,
    hparse, ?_, fun hnone => ?_, fun hsome => ?_⟩
  · have htail := isTail_lastWord (ahead ++ word)
    rwa [hparted.tail] at htail
  · rw [hstart, hfront, byteLength_append (front ++ ahead)]
    exact Nat.le_add_right _ _
  · exact ⟨front ++ ahead, word ++ after, hline, hstart.symm⟩
  · rw [hstart, hline, takeBytes_byteLength]
    exact hfront
  · rw [hparted.commands_append, hparse]
    exact List.getLast?_concat
  · have hnil : ahead.words = [] := by
      by_contra hne
      exact (hargs hne).1 hnone
    have hwanted : cursorWord before = .verb word := by rw [hparted.cursorWord_eq, if_pos hnil]
    refine ⟨congrArg Command.verb (hverb hnil), hwanted, ?_⟩
    rw [complete, hwanted]
    rfl
  · have hne : ahead.words ≠ [] := by
      intro hnil
      rw [hverb hnil] at hsome
      exact hsome rfl
    have hwanted : cursorWord before = .path word := by rw [hparted.cursorWord_eq, if_neg hne]
    refine ⟨(hargs hne).2, hwanted, ?_⟩
    rw [complete, hwanted]
    rfl

/-- A cursor after letters of two bytes: the no-break space before `nö` separates the word. -/
theorem complete_cursor_wide :
    let line : Text := "cd é;ls\u00a0nöx".toList
    line.IsBoundary 13 ∧ (fresh.complete .empty (line.takeBytes 13)).start = 10 ∧
      line.IsBoundary 10 ∧
      ∃ segment command, IsTail Command.isSeparator (line.takeBytes 13) segment ∧
        IsTail isBlank segment ("nö" : Text) ∧
        Command.parse? (segment ++ ['x']) = some command ∧
        (commands (line.takeBytes 13 ++ ['x'])).getLast? = some command ∧
        (command.args ≠ [] → command.args.getLast? = some ("nöx" : Text)) := by
  intro line
  have hboundary : line.IsBoundary 13 := ⟨"cd é;ls\u00a0nö".toList, "x".toList, rfl, by decide⟩
  have hstart : (fresh.complete .empty (line.takeBytes 13)).start = 10 := by decide
  have hcut : line.takeBytes 13 = line.takeBytes 10 ++ ("nö" : Text) := by decide
  obtain ⟨segment, word, command, hsegment, hword, -, hplace, hbefore, hparse, hlast, -, harg⟩ :=
    complete_cursor fresh .empty hboundary
  rw [hstart] at hplace hbefore
  obtain rfl : word = ("nö" : Text) := List.append_cancel_left (hbefore.symm.trans hcut)
  exact ⟨hboundary, hstart, hplace, segment, command, hsegment, hword, hparse, hlast,
    fun hargs => (harg hargs).1⟩

end Completer

end AliasShell
