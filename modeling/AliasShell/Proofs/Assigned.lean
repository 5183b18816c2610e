/-
A variable that is set to a text.

A name, an `=` and a value may stand in one word or in several, and the value is cut into
words besides.  What reads an assignment joins the words again, cuts at the first `=` and
trims both sides.  The word around the `=` is where the cut goes through: `Around` says
what stands on its two sides, and `assignment?_words` that in the end only the words on
either side are left, whatever was between them.

So all spellings of an assignment are the same one: `run_assignments`.
-/
import AliasShell.Proofs.Dispatch.Limit
import AliasShell.Proofs.Ends
import AliasShell.Proofs.Environment
import AliasShell.Proofs.Joined

namespace AliasShell

namespace Text

/-! ### The word around a character -/

/-- In a text with `a` in front of `c` and `b` behind it, `c` stands in the word `q ++ c :: r`. -/
structure Around (a : Text) (c : Char) (b : Text) (us : List Text) (q r : Text) (vs : List Text) :
    Prop where
  /-- `q` is the end of `a` without white space, and may be empty -/
  before : ∀ d ∈ q, isBlank d = false
  /-- `r` is the beginning of `b` without white space, and may be empty -/
  behind : ∀ d ∈ r, isBlank d = false
  front : a.words = us ++ q.words
  back : b.words = r.words ++ vs
  whole : (a ++ c :: b).words = us ++ (q ++ c :: r) :: vs

/-- A text begins with what stands before its first white space, if anything does. -/
theorem exists_beginning (t : Text) : ∃ r back, t = r ++ back ∧ (∀ d ∈ r, isBlank d = false) ∧
    ∀ d ∈ List.head? back, isBlank d = true := by
  induction t with
  | nil => exact ⟨[], [], rfl, fun d hd => absurd hd List.not_mem_nil, fun d hd => by cases hd⟩
  | cons c cs ih =>
      cases hc : isBlank c with
      | false =>
          obtain ⟨r, back, rfl, hr, hback⟩ := ih
          exact ⟨c :: r, back, rfl, List.forall_mem_cons.mpr ⟨hc, hr⟩, hback⟩
      | true =>
          refine ⟨[], c :: cs, rfl, fun d hd => absurd hd List.not_mem_nil, fun d hd => ?_⟩
          exact Option.mem_some_iff.mp hd ▸ hc

theorem exists_around {c : Char} (hc : isBlank c = false) (a b : Text) :
    ∃ us q r vs, Around a c b us q r vs := by
  have htail := isTail_rtakeWhile isBlank a
  generalize (a.rtakeWhile fun d => !isBlank d) = q at htail
  have hq := htail.free
  obtain ⟨front, rfl, hfront⟩ := htail.exists_front
  obtain ⟨r, back, rfl, hr, hback⟩ := exists_beginning b
  have hword : IsWord (q ++ c :: r) :=
    ⟨by simp, List.forall_mem_append.mpr ⟨hq, List.forall_mem_cons.mpr ⟨hc, hr⟩⟩⟩
  refine ⟨words front, q, r, words back, hq, hr, words_append_of_blank hfront q, ?_, ?_⟩
  · obtain ⟨rfl, -⟩ | ⟨hr, hwords⟩ := words_of_solid hr
    · rfl
    · rw [words_append_of_isWord hr hback, hwords, List.singleton_append]
  · have hparts : front ++ q ++ c :: (r ++ back) = front ++ ((q ++ c :: r) ++ back) := by simp
    rw [hparts, words_append_of_blank hfront, words_append_of_isWord hword hback]

namespace Around

variable {a b : Text} {c : Char} {us : List Text} {q r : Text} {vs : List Text}

theorem isWord_us (h : Around a c b us q r vs) : ∀ w ∈ us, IsWord w := fun w hw =>
  mem_words (t := a) (by rw [h.front]; exact List.mem_append_left _ hw)

theorem isWord_vs (h : Around a c b us q r vs) : ∀ w ∈ vs, IsWord w := fun w hw =>
  mem_words (t := b) (by rw [h.back]; exact List.mem_append_right _ hw)

/-- Joined again, the words are cut where the text was. -/
theorem unwords_eq (h : Around a c b us q r vs) :
    unwords (words (a ++ c :: b)) = unwords (us ++ [q]) ++ c :: unwords (r :: vs) := by
  have hrest : c :: unwords (r :: vs) = unwords ((c :: r) :: vs) := append_unwords_cons [c] r vs
  rw [h.whole, unwords_append_cons, hrest]

theorem trim_front (h : Around a c b us q r vs) :
    (unwords (us ++ [q])).trim = unwords a.words := by
  rw [trim_unwords_concat h.isWord_us h.before, h.front]

theorem trim_back (h : Around a c b us q r vs) : (unwords (r :: vs)).trim = unwords b.words := by
  rw [trim_unwords_cons h.behind h.isWord_vs, h.back]

/-- What stands in front of the cut is made of `a` and spaces. -/
theorem mem_front (h : Around a c b us q r vs) {d : Char} (hd : d ∈ unwords (us ++ [q])) :
    d = ' ' ∨ d ∈ a := by
  obtain rfl | ⟨w, hw, hdw⟩ := mem_unwords hd
  · exact Or.inl rfl
  · refine Or.inr (mem_of_mem_words (w := w) ?_ d hdw)
    rw [h.front]
    rcases List.mem_append.mp hw with hw | hw
    · exact List.mem_append_left _ hw
    · obtain rfl := List.mem_singleton.mp hw
      obtain ⟨rfl, -⟩ | ⟨-, hwords⟩ := words_of_solid h.before
      · cases hdw
      · rw [hwords]
        exact List.mem_append_right us hw

end Around

/-- **What is cut in the middle and trimmed is the words on either side.** -/
theorem cutFirst_unwords_words {p : Char → Bool} {a : Text} {sep : Char} (ha : ∀ d ∈ a, p d = false)
    (hspace : p ' ' = false) (hsep : p sep = true) (hsolid : isBlank sep = false) (b : Text) :
    (cutFirst p (unwords (words (a ++ sep :: b)))).map (fun sides => (trim sides.1, trim sides.2)) =
      some (unwords a.words, unwords b.words) := by
  obtain ⟨us, q, r, vs, h⟩ := exists_around hsolid a b
  have hfront : ∀ d ∈ unwords (us ++ [q]), p d = false := by
    intro d hd
    obtain rfl | hd := h.mem_front hd
    · exact hspace
    · exact ha d hd
  rw [h.unwords_eq, cutFirst_append hfront hsep, Option.map_some, h.trim_front, h.trim_back]

/-- The first word of the text has the character in it, or stands in front of it. -/
theorem mem_head?_words {c : Char} (hc : isBlank c = false) {a b word : Text}
    (h : word ∈ (words (a ++ c :: b)).head?) : word ∈ a.words ∨ c ∈ word := by
  obtain ⟨us, q, r, vs, haround⟩ := exists_around hc a b
  rw [haround.whole] at h
  cases us with
  | nil =>
      obtain rfl : q ++ c :: r = word := Option.some.inj h
      exact Or.inr (List.mem_append_right q List.mem_cons_self)
  | cons u us =>
      obtain rfl : u = word := Option.some.inj h
      rw [haround.front]
      exact Or.inl List.mem_cons_self

end Text

namespace Builtin.Var

/-- **An assignment is the words on either side of its `=`**, however they are spaced. -/
theorem assignment?_words {a : Text} (ha : '=' ∉ a) (b : Text) :
    assignment? (Text.words (a ++ '=' :: b)) =
      if a.words = [] then none else some (Text.unwords a.words, Text.unwords b.words) := by
  have hfree : ∀ d ∈ a, (d == '=') = false := fun d hd =>
    beq_false_of_ne fun heq => ha (heq ▸ hd)
  have hcut := Text.cutFirst_unwords_words hfree rfl (beq_self_eq_true '=') rfl b
  have hempty : (Text.unwords a.words).isEmpty = true ↔ a.words = [] := by
    rw [List.isEmpty_iff]
    refine ⟨fun hnil => ?_, fun hnil => by rw [hnil, Text.unwords_nil]⟩
    rw [← Text.words_unwords fun w hw => Text.mem_words hw, hnil, Text.words_nil]
  obtain ⟨⟨name, value⟩, hsides, htrim⟩ := Option.map_eq_some_iff.mp hcut
  obtain ⟨hname, hvalue⟩ := Prod.mk.inj htrim
  unfold assignment?
  rw [hsides]
  simp only [hname, hvalue, hempty]

/-- What is no sub-command is set. -/
theorem run_words {a name : Text} (ha : '=' ∉ a) (hname : a.words = [name])
    (hdel : name ≠ "del".toList) (hmatch : name ≠ "match".toList) (b : Text) (s : Session) :
    run (Text.words (a ++ '=' :: b)) s = s.setVar name (Text.unwords b.words) := by
  have hassign : assign (Text.words (a ++ '=' :: b)) s = s.setVar name (Text.unwords b.words) := by
    rw [assign, assignment?_words ha, hname, if_neg (List.cons_ne_nil name []),
      Text.unwords_singleton]
  cases hwords : Text.words (a ++ '=' :: b) with
  | nil => exact absurd hwords (Text.words_ne_nil ⟨'=', by simp, rfl⟩)
  | cons word rest =>
      -- a sub-command is a word without an `=` in it, and so would have to be the name
      have hother : ∀ verb : Text, '=' ∉ verb → name ≠ verb → word ≠ verb := by
        rintro verb hequals hne rfl
        obtain hmem | hmem := Text.mem_head?_words (c := '=') rfl (by rw [hwords]; rfl)
        · rw [hname] at hmem
          exact hne (List.mem_singleton.mp hmem).symm
        · exact hequals hmem
      rw [hwords] at hassign
      simp only [run, if_neg (hother _ (by decide) hdel), if_neg (hother _ (by decide) hmatch)]
      exact hassign

end Builtin.Var

namespace Dispatch

/-! ### Lines -/

/-- The ways to type that a variable is set to a text. -/
def assignments (name value : Text) : List Text :=
  ["var " ++ name ++ "=" ++ value, "var " ++ name ++ " = " ++ value,
    "var " ++ name ++ "= " ++ value, "var " ++ name ++ " =" ++ value]

/-- They differ in the spaces around the `=`. -/
theorem exists_sides {name value line : Text} (h : line ∈ assignments name value) :
    ∃ a b : Text, line = "var".toList ++ ' ' :: (a ++ '=' :: b) ∧ (a = name ∨ a = name ++ [' ']) ∧
      (b = value ∨ b = ' ' :: value) := by
  have hverb : "var ".toList = "var".toList ++ [' '] := rfl
  have hequals : "=".toList = ['='] ∧ " = ".toList = [' ', '=', ' '] ∧
      "= ".toList = ['=', ' '] ∧ " =".toList = [' ', '='] :=
    ⟨rfl, rfl, rfl, rfl⟩
  obtain ⟨hnone, hboth, hbehind, hbefore⟩ := hequals
  simp only [assignments, hverb, hnone, hboth, hbehind, hbefore, List.mem_cons, List.not_mem_nil,
    or_false] at h
  rcases h with rfl | rfl | rfl | rfl
  · exact ⟨name, value, by simp, Or.inl rfl, Or.inl rfl⟩
  · exact ⟨name ++ [' '], ' ' :: value, by simp, Or.inr rfl, Or.inr rfl⟩
  · exact ⟨name, ' ' :: value, by simp, Or.inl rfl, Or.inr rfl⟩
  · exact ⟨name ++ [' '], value, by simp, Or.inr rfl, Or.inl rfl⟩

section

variable (x : Executor) {s : Session} {name : Text}

/-- Each of them sets the name to the words of the value. -/
theorem run_of_mem_assignments (hvar : s.aliases.get? "var" = none) (hname : IsToken name)
    (hequals : '=' ∉ name) (hdel : name ≠ "del".toList) (hmatch : name ≠ "match".toList)
    {value line : Text} (hsep : ';' ∉ value) (hline : line ∈ assignments name value) :
    run x line s = (.ofResult (s.setVar name (Text.unwords value.words)).2,
      (s.setVar name (Text.unwords value.words)).1) := by
  obtain ⟨a, b, rfl, ha, hb⟩ := exists_sides hline
  have hwords : a.words = [name] ∧ b.words = value.words := by
    have hword := Text.words_of_isWord hname.toIsWord
    refine ⟨?_, ?_⟩
    · rcases ha with rfl | rfl
      · exact hword
      · rw [Text.words_append_blank rfl, hword]
        rfl
    · rcases hb with rfl | rfl
      · rfl
      · exact Text.words_cons_blank rfl value
  have hfree : '=' ∉ a ∧ ';' ∉ a ++ '=' :: b := by
    have hwhole := hname.whole
    rcases ha with rfl | rfl <;> rcases hb with rfl | rfl <;> simp [hequals, hwhole, hsep]
  have hcommands : commands ("var".toList ++ ' ' :: (a ++ '=' :: b)) =
      [⟨"var", Text.words (a ++ '=' :: b)⟩] := by
    have hall : ';' ∉ "var".toList ++ ' ' :: (a ++ '=' :: b) :=
      List.not_mem_append (by decide)
        (List.not_mem_cons_of_ne_of_not_mem (by decide) hfree.2)
    have hverb : IsToken "var".toList := by decide
    rw [commands_of_not_mem hall, Text.words_append_blank rfl, Text.words_of_isWord hverb.toIsWord]
    rfl
  have haction : Builtin.action? "var" = some Builtin.Var.run := rfl
  rw [run_builtin x hcommands hvar haction, Builtin.Var.run_words hfree.1 hwords.1 hdel hmatch,
    hwords.2]

/-- A variable is printed as its value. -/
theorem run_print (hprint : s.aliases.get? "print" = none) (hname : IsToken name) {value : Text}
    (hvalue : s.env.get? name = some value) :
    run x ("print $" ++ name) s =
      (.ofResult (s.print (value ++ ['\n'])).2, (s.print (value ++ ['\n'])).1) := by
  have hline : "print $".toList ++ name = Text.unwords ["print", '$' :: name] := by
    have hfront : "print $".toList = "print".toList ++ [' ', '$'] := rfl
    rw [hfront, Text.unwords_cons_cons, Text.unwords_singleton]
    exact List.append_assoc _ _ _
  have htokens : ∀ w ∈ (Command.mk "print" ['$' :: name]).toWords, IsToken w := by
    have hdollar : IsToken ('$' :: name) :=
      ⟨⟨List.cons_ne_nil _ _, List.forall_mem_cons.mpr ⟨rfl, hname.solid⟩⟩,
        List.not_mem_cons_of_ne_of_not_mem (by decide) hname.whole⟩
    have hprint : IsToken "print".toList := by decide
    exact List.forall_mem_cons.mpr ⟨hprint, List.forall_mem_singleton.mpr hdollar⟩
  have hcommands := commands_unwords htokens
  have haction : Builtin.action? "print" = some Builtin.Print.run := rfl
  rw [hline]
  refine (run_builtin x hcommands hprint haction).trans ?_
  simp [Builtin.Print.run, Builtin.Print.shown, Session.printLines, hvalue]

end

/-- **All spellings of an assignment do the same, and what they set can be read back.**  The value
is the words that were typed, one space apart; no other variable changes, and nothing else. -/
theorem run_assignments (x : Executor) {s : Session} {name value : Text}
    (hvar : s.aliases.get? "var" = none) (hprint : s.aliases.get? "print" = none)
    (hname : name ≠ [] ∧ ∀ c ∈ name, isBlank c = false ∧ c ≠ ';' ∧ c ≠ '=' ∧ c ≠ '\x00')
    (hdel : name ≠ "del".toList) (hmatch : name ≠ "match".toList)
    (hvalue : ∀ c ∈ value, c ≠ ';' ∧ c ≠ '\x00') :
    ∃ env, s.env.SetTo name (Text.unwords value.words) env ∧
      (∀ line ∈ assignments name value, run x line s = (.quiet, { s with env })) ∧
      run x ("print $" ++ name) { s with env } =
        (.ofResult (({ s with env } : Session).print (Text.unwords value.words ++ ['\n'])).2,
          (({ s with env } : Session).print (Text.unwords value.words ++ ['\n'])).1) := by
  obtain ⟨hne, hchars⟩ := hname
  have htoken : IsToken name := ⟨⟨hne, fun c hc => (hchars c hc).1⟩, fun h => (hchars _ h).2.1 rfl⟩
  have hequals : '=' ∉ name := fun h => (hchars _ h).2.2.1 rfl
  have hvalid : Environment.ValidName name := ⟨hne, hequals, fun h => (hchars _ h).2.2.2 rfl⟩
  have hwhole : Environment.ValidValue (Text.unwords value.words) := by
    intro hnul
    obtain hspace | ⟨w, hw, hnul⟩ := Text.mem_unwords hnul
    · cases hspace
    · exact (hvalue _ (Text.mem_of_mem_words hw _ hnul)).2 rfl
  obtain ⟨env, hset, hto⟩ := s.env.set_setTo hvalid hwhole
  refine ⟨env, hto, fun line hline => ?_, ?_⟩
  · have hsep : ';' ∉ value := fun h => (hvalue _ h).1 rfl
    rw [run_of_mem_assignments x hvar htoken hequals hdel hmatch hsep hline, Session.setVar, hset]
    rfl
  · exact run_print x (s := { s with env }) hprint htoken hto.here

/-- A value with an `=` at both ends and white space of all kinds, which takes the place of one that
a process was started with, and a value that is blank. -/
theorem run_assignments_respaced :
    let x : Executor := ⟨Scripted.launcher ⟨[], [], [], []⟩, none⟩
    let s : Session := { Session.fresh "/" with
      env := .process ⟨[Text.encode "N=1", Text.encode "A=2"]⟩ }
    (∃ env, s.env.SetTo "N" "=a b =" env ∧
      (∀ line ∈ assignments "N" "\t=a\u3000\n b = ", run x line s = (.quiet, { s with env })) ∧
      run x ("print $" ++ ("N" : Text)) { s with env } =
        (.quiet, { s with env, console := ⟨none, [(.shell, Text.encode "=a b =\n")]⟩ })) ∧
    ∃ env, s.env.SetTo "N" "" env ∧
      ∀ line ∈ assignments "N" "\u00A0 ", run x line s = (.quiet, { s with env }) := by
  intro x s
  have hname : "N".toList ≠ [] ∧
      ∀ c ∈ "N".toList, isBlank c = false ∧ c ≠ ';' ∧ c ≠ '=' ∧ c ≠ '\x00' :=
    ⟨by decide, List.forall_mem_singleton.mpr (by decide)⟩
  have hvalue : ∀ c ∈ "\t=a\u3000\n b = ".toList, c ≠ ';' ∧ c ≠ '\x00' := fun c hc =>
    ⟨fun h => absurd (h ▸ hc) (by decide), fun h => absurd (h ▸ hc) (by decide)⟩
  have hblank : ∀ c ∈ "\u00A0 ".toList, c ≠ ';' ∧ c ≠ '\x00' := fun c hc =>
    ⟨fun h => absurd (h ▸ hc) (by decide), fun h => absurd (h ▸ hc) (by decide)⟩
  have hwords : Text.unwords (Text.words "\t=a\u3000\n b = ") = "=a b =".toList := rfl
  have hnone : Text.unwords (Text.words "\u00A0 ") = "".toList := rfl
  obtain ⟨env, hto, hrun, hread⟩ :=
    run_assignments x (s := s) rfl rfl hname (by decide) (by decide) hvalue
  obtain ⟨env', hto', hrun', -⟩ :=
    run_assignments x (s := s) rfl rfl hname (by decide) (by decide) hblank
  rw [hwords] at hto hread
  rw [hnone] at hto'
  exact ⟨⟨env, hto, hrun, hread⟩, env', hto', hrun'⟩

end Dispatch

end AliasShell
