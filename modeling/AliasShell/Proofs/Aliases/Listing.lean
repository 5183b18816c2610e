/-
The listing of aliases as a startup text.

`alias list` prints a line `name=text` for each alias and quotes nothing, so it is
not plain that a reader of the lines gets the aliases back: the text goes through
the cutting of lines, of commands and of words, is joined again, cut at an `=` and
trimmed.  For a table that declarations have led to it does come back, because each
of its lines is already what those steps would make of it: tokens joined with
spaces, the name up to the first `=`.  `declaration?_line` is that step,
`runLines_again` the run of all lines, and `listing_faithful` the whole way from any
lines that ran to the listing and back.

A table with an alias `alias` is left out, since the lines that declare would be
replaced themselves.
-/
import AliasShell.Proofs.Aliases.Declared
import AliasShell.Proofs.Startup

namespace AliasShell

open Aliases

theorem Builtin.action?_alias : action? "alias" = some AliasVerb.run := rfl

namespace Builtin.AliasVerb

/-! ### One line of the listing -/

section Line

variable {e : Text × Text} (h : IsDeclaration e)

include h

theorem isToken_of_mem_text {w : Text} (hw : w ∈ e.2.words) : IsToken w :=
  ⟨Text.mem_words hw, fun hs => h.text_separator (Text.mem_of_mem_words hw _ hs)⟩

/-- The name, the `=` and what comes up to the first space are one token. -/
theorem isToken_name_append {v : Text} (hv : ∀ c ∈ v, isBlank c = false ∧ c ≠ ';') :
    IsToken (e.1 ++ ['='] ++ v) := by
  have hchar : ∀ c ∈ e.1 ++ ['='] ++ v, isBlank c = false ∧ c ≠ ';' := by
    intro c hc
    rcases List.mem_append.mp hc with hc | hc
    · rcases List.mem_append.mp hc with hc | hc
      · exact ⟨h.name.solid c hc, fun hs => h.name.whole (hs ▸ hc)⟩
      · obtain rfl := List.mem_singleton.mp hc
        decide
    · exact hv c hc
  exact ⟨⟨by simp, fun c hc => (hchar c hc).1⟩, fun hs => (hchar ';' hs).2 rfl⟩

/-- A line of the listing is tokens joined with spaces. -/
theorem line_eq_unwords : ∃ ws, ws ≠ [] ∧ (∀ w ∈ ws, IsToken w) ∧ line e = Text.unwords ws := by
  have htext : line e = e.1 ++ ['='] ++ Text.unwords e.2.words := by
    rw [h.text_spaced, line, List.append_assoc]
    rfl
  have hwords : ∀ w ∈ e.2.words, IsToken w := fun w hw => isToken_of_mem_text h hw
  cases hws : e.2.words with
  | nil =>
      refine ⟨[e.1 ++ ['='] ++ []], by simp, ?_, ?_⟩
      · intro w hw
        rw [List.mem_singleton.mp hw]
        exact isToken_name_append h (by simp)
      · rw [htext, hws, Text.unwords_singleton, Text.unwords_nil]
  | cons v vs =>
      rw [hws] at hwords
      refine ⟨(e.1 ++ ['='] ++ v) :: vs, by simp, ?_, ?_⟩
      · intro w hw
        rcases List.mem_cons.mp hw with rfl | hw
        · have hv : IsToken v := hwords v List.mem_cons_self
          exact isToken_name_append h fun c hc => ⟨hv.solid c hc, fun hs => hv.whole (hs ▸ hc)⟩
        · exact hwords w (List.mem_cons_of_mem v hw)
      · rw [htext, hws, Text.append_unwords_cons]

/-- **A line of the listing declares the alias that it shows.** -/
theorem declaration?_line {ws : List Text} (hws : Text.unwords ws = line e) :
    declaration? ws = some e := by
  have hequals : ∀ c ∈ e.1, (c == '=') = false := by
    intro c hc
    rw [beq_eq_false_iff_ne]
    exact fun hs => h.name_equals (hs ▸ hc)
  have hcut : (line e).cutFirst (· == '=') = some (e.1, e.2) :=
    Text.cutFirst_append hequals rfl e.2
  have hname : (e.1.isEmpty || e.1.any isBlank) = false := by
    have hsolid : e.1.any isBlank = false := List.any_eq_false.mpr fun c hc => by
      simp [h.name.solid c hc]
    rw [hsolid, Bool.or_false, List.isEmpty_eq_false_iff]
    exact h.name.ne_nil
  rw [declaration?, hws, hcut]
  simp only [Text.trim_of_solid h.name.solid, h.text_trimmed, hname, Bool.false_eq_true, if_false]

end Line

/-! ### The lines read back -/

/-- What is printed for a table. -/
def listing (t : Aliases) : Text := (lines t).flatMap (· ++ ['\n'])

theorem listing_of_ne_nil {t : Aliases} (h : t.entries ≠ []) :
    listing t = (t.entries.map line).flatMap (· ++ ['\n']) := by
  rw [listing, lines, if_neg (by simpa [isEmpty] using h)]

/-- A line that declares what a line of the listing shows. -/
def again (line : Text) : Text := "alias add " ++ line

/-- What the listing printed, made into a text that declares the same aliases: `alias add ` in front
of each of its lines. -/
def redeclare (printed : Text) : Text :=
  ((printed.cut (· == '\n')).dropLast.map again).flatMap (· ++ ['\n'])

/-- The lines of a listing hold no line end. -/
theorem line_one_line {e : Text × Text} (h : IsDeclaration e) :
    ∀ c ∈ line e, (c == '\n') = false := by
  obtain ⟨ws, -, hws, hline⟩ := line_eq_unwords h
  intro c hc
  rw [beq_eq_false_iff_ne]
  rintro rfl
  rw [hline] at hc
  rcases Text.mem_unwords hc with hsp | ⟨w, hw, hcw⟩
  · cases hsp
  · exact absurd ((hws w hw).solid '\n' hcw) (by decide)

theorem again_unwords {ws : List Text} (h : ws ≠ []) :
    again (Text.unwords ws) = Text.unwords ("alias".toList :: "add".toList :: ws) := by
  rw [Text.unwords_cons_cons, Text.unwords_cons_of_ne_nil _ h]
  rfl

theorem isToken_again {ws : List Text} (h : ∀ w ∈ ws, IsToken w) :
    ∀ w ∈ "alias".toList :: "add".toList :: ws, IsToken w := by
  intro w hw
  rcases List.mem_cons.mp hw with rfl | hw
  · decide
  · rcases List.mem_cons.mp hw with rfl | hw
    · decide
    · exact h w hw

/-- Lines that declare are run as they are. -/
theorem numberedLines_redeclare {es : List (Text × Text)} (h : ∀ e ∈ es, IsDeclaration e) :
    (Startup.numberedLines (redeclare ((es.map line).flatMap (· ++ ['\n'])))).map (·.2) =
      es.map fun e => again (line e) := by
  have hline : ∀ l ∈ es.map line, ∀ c ∈ l, (c == '\n') = false := by
    intro l hl
    obtain ⟨e, he, rfl⟩ := List.mem_map.mp hl
    exact line_one_line (h e he)
  have hfront : '\n' ∉ "alias add ".toList := by decide
  have hagain : ∀ l ∈ (es.map line).map again, ∀ c ∈ l, (c == '\n') = false := by
    intro l hl c hc
    obtain ⟨l', hl', rfl⟩ := List.mem_map.mp hl
    rcases List.mem_append.mp hc with hc | hc
    · exact beq_eq_false_iff_ne.mpr fun hs => hfront (hs ▸ hc)
    · exact hline l' hl' c hc
  have hcut : (redeclare ((es.map line).flatMap (· ++ ['\n']))).cut (· == '\n') =
      (es.map line).map again ++ [[]] := by
    rw [redeclare, Text.cut_lines rfl hline, List.dropLast_concat, Text.cut_lines rfl hagain]
  have htrim : ∀ e ∈ es, (again (line e)).trim = again (line e) := by
    intro e he
    obtain ⟨ws, hne, hws, hline⟩ := line_eq_unwords (h e he)
    rw [hline, again_unwords hne]
    exact Text.trim_unwords fun w hw => (isToken_again hws w hw).toIsWord
  have hruns : ((es.map fun e => again (line e)).filter Startup.runs) =
      es.map fun e => again (line e) := by
    refine List.filter_eq_self.mpr fun l hl => ?_
    obtain ⟨e, -, rfl⟩ := List.mem_map.mp hl
    rfl
  have hmap : ((es.map line).map again).map Text.trim = es.map fun e => again (line e) := by
    rw [List.map_map, List.map_map]
    exact List.map_congr_left htrim
  rw [Startup.numberedLines_lines, hcut, List.map_append, List.filter_append, hmap, hruns]
  exact List.append_nil _

/-- **A line that declares adds the alias that it shows.** -/
theorem run_again (x : Executor) {e : Text × Text} (h : IsDeclaration e) {s : Session}
    (hverb : "alias".toList ∉ s.aliases.names) (hroom : s.console.room = none) :
    ∃ console, console.room = none ∧ Dispatch.run x (again (line e)) s =
      (.quiet, { s with aliases := s.aliases.add e.1 e.2, console }) := by
  obtain ⟨ws, hne, hws, hline⟩ := line_eq_unwords h
  have hone : commands (again (line e)) = [⟨"alias", "add".toList :: ws⟩] := by
    rw [hline, again_unwords hne]
    exact commands_unwords (c := ⟨"alias", "add".toList :: ws⟩) (isToken_again hws)
  have hroute : s.aliases.get? "alias" = none := get?_eq_none_of_not_mem hverb
  have hwrite : ∀ b, s.console.write b = (⟨none, s.console.log ++ [(.shell, b)]⟩, true) := by
    intro b
    rw [Console.write, hroom]
  have hadd : AliasVerb.run ("add".toList :: ws) s = AliasVerb.add ws s := by
    rw [AliasVerb.run, if_neg (by decide), if_pos rfl]
  rw [Dispatch.run_builtin x hone hroute action?_alias, hadd, AliasVerb.add,
    declaration?_line h hline.symm]
  simp only [Session.printLines, Session.print_eq, hwrite]
  exact ⟨⟨none, _⟩, rfl, rfl⟩

/-- The lines that declare add their aliases one after another, and none of them fails. -/
theorem runLines_again (x : Executor) :
    ∀ {es : List (Text × Text)} {numbered : List (Nat × Text)} {s : Session},
      numbered.map (·.2) = es.map (fun e => again (line e)) → (∀ e ∈ es, IsDeclaration e) →
        ((s.aliases.entries ++ es).map (·.1)).Nodup →
          "alias".toList ∉ (s.aliases.entries ++ es).map (·.1) → s.console.room = none →
            ∃ s', Startup.runLines x numbered s = (⟨es.length, []⟩, s') ∧
              s'.aliases.entries = s.aliases.entries ++ es := by
  intro es
  induction es with
  | nil =>
      intro numbered s hlines _ _ _ _
      obtain rfl := List.map_eq_nil_iff.mp hlines
      exact ⟨s, rfl, (List.append_nil _).symm⟩
  | cons e es ih =>
      intro numbered s hlines hes hnames hverb hroom
      obtain ⟨⟨n, l⟩, rest, rfl, rfl, hrest⟩ := List.map_eq_cons_iff.mp hlines
      have hsplit : s.aliases.entries ++ e :: es = (s.aliases.entries ++ [e]) ++ es := by simp
      have hnew : e.1 ∉ s.aliases.entries.map (·.1) := by
        rw [List.map_append, List.map_cons] at hnames
        exact fun hmem => (List.nodup_append.mp hnames).2.2 _ hmem _ List.mem_cons_self rfl
      have hold : "alias".toList ∉ s.aliases.names := fun hmem => hverb (by
        rw [List.map_append]
        exact List.mem_append_left _ hmem)
      have hadded : (s.aliases.add e.1 e.2).entries = s.aliases.entries ++ [e] :=
        put_of_not_mem hnew
      obtain ⟨console, hroom', hrun⟩ := run_again x (hes e List.mem_cons_self) hold hroom
      obtain ⟨s', hrest', hentries⟩ := ih
        (s := { s with aliases := s.aliases.add e.1 e.2, console }) hrest
        (fun d hd => hes d (List.mem_cons_of_mem e hd)) (by rw [hadded, ← hsplit]; exact hnames)
        (by rw [hadded, ← hsplit]; exact hverb) hroom'
      refine ⟨s', ?_, by rw [hentries, hadded, hsplit]⟩
      rw [Startup.runLines, hrun]
      simp only [hrest']
      rfl

end Builtin.AliasVerb

namespace Dispatch

open Builtin
open Builtin.AliasVerb (declaration? listing redeclare)

/-- The listing is written at once. -/
theorem run_list (x : Executor) {s : Session} (hverb : "alias".toList ∉ s.aliases.names) :
    run x "alias list" s =
      (.ofResult (s.print (listing s.aliases)).2, (s.print (listing s.aliases)).1) := by
  have hone : commands "alias list" = [⟨"alias", ["list"]⟩] := by decide
  have hlist : AliasVerb.run ["list"] s = AliasVerb.list s := by
    rw [AliasVerb.run, if_pos rfl]
  rw [run_builtin x hone (get?_eq_none_of_not_mem hverb) action?_alias, hlist, AliasVerb.list,
    Session.printLines, listing]

/-- **The listing is a faithful dump.**  Lines have run in a session without aliases and left
`table`.  Then its names are distinct, and each is declared with its text as a line could declare
it.  If no alias in it is named `alias`, `alias list` prints its listing in any session that has it,
and the lines of that, with `alias add ` in front of each, declare the same names with the same
texts in the same order in any session without aliases: one line for each, and no failure. -/
theorem listing_faithful {x : Executor} {lines : List Text} {s : Session} {table : Aliases}
    (hs : s.aliases = .empty) (htable : (after x lines s).aliases = table) :
    table.Declared ∧ (table.entries ≠ [] → "alias".toList ∉ table.names →
      (∀ (y : Executor) (p : Session), p.aliases = table → run y "alias list" p =
        (.ofResult (p.print (listing table)).2, (p.print (listing table)).1)) ∧
      ∀ (z : Executor) (q : Session), q.aliases = .empty → q.console.room = none →
        ∃ q', Startup.sourceText z (redeclare (listing table)) q = (⟨table.size, []⟩, q') ∧
          q'.aliases = table) := by
  have hdeclared : table.Declared := by
    rw [← htable]
    exact after_declared x lines (hs ▸ declared_empty)
  refine ⟨hdeclared, fun hne hverb => ⟨?_, ?_⟩⟩
  · rintro y p rfl
    exact run_list y hverb
  · intro z q hq hroom
    have hentries : q.aliases.entries ++ table.entries = table.entries := by
      rw [hq]
      rfl
    have hnumbered := AliasVerb.numberedLines_redeclare hdeclared.entry
    rw [← AliasVerb.listing_of_ne_nil hne] at hnumbered
    obtain ⟨q', hrun, hq'⟩ := AliasVerb.runLines_again z hnumbered hdeclared.entry
      (by rw [hentries]; exact hdeclared.distinct) (by rw [hentries]; exact hverb) hroom
    refine ⟨q', hrun, ?_⟩
    rw [hentries] at hq'
    exact congrArg Aliases.mk hq'

/-- A table with a text that was replaced in its place, an empty one, and one that holds an `=`.
The lines wrote to a channel that was full at once, and an ideographic space separated words. -/
theorem listing_faithful_replaced :
    let x : Executor := ⟨Scripted.launcher ⟨[], [], [], []⟩, none⟩
    let s : Session := { Session.fresh "/" with console := .limited 0 }
    let lines : List Text := ["alias add ll=ls; alias add e =; alias add d=alias del tmp",
      "alias add tmp=x; alias add ll =\u3000ls \u3000 -l; d; alias add set=var X=1"]
    let table : Aliases :=
      ⟨[("ll", "ls -l"), ("e", ""), ("d", "alias del tmp"), ("set", "var X=1")]⟩
    let q : Session := Session.fresh "/"
    (s.aliases = .empty ∧ (after x lines s).aliases = table ∧ table.entries ≠ [] ∧
      "alias".toList ∉ table.names ∧ q.aliases = .empty ∧ q.console.room = none) ∧
      table.Declared ∧
      run x "alias list" { q with aliases := table } =
        (.quiet, { q with aliases := table, console := ⟨none, [(.shell, Text.encode
          "ll=ls -l\ne=\nd=alias del tmp\nset=var X=1\n")]⟩ }) ∧
      ∃ q', Startup.sourceText x (redeclare
        "ll=ls -l\ne=\nd=alias del tmp\nset=var X=1\n") q = (⟨4, []⟩, q') ∧ q'.aliases = table := by
  intro x s lines table q
  have hs : s.aliases = .empty := rfl
  have htable : (after x lines s).aliases = table := by decide +kernel
  have hne : table.entries ≠ [] := by decide
  have hverb : "alias".toList ∉ table.names := by decide
  obtain ⟨hdeclared, hlisting⟩ := listing_faithful hs htable
  obtain ⟨hlist, hagain⟩ := hlisting hne hverb
  have hprinted : listing table = "ll=ls -l\ne=\nd=alias del tmp\nset=var X=1\n".toList := by
    decide +kernel
  rw [hprinted] at hlist hagain
  exact ⟨⟨hs, htable, hne, hverb, rfl, rfl⟩, hdeclared, hlist x { q with aliases := table } rfl,
    hagain x q rfl rfl⟩

end Dispatch

end AliasShell
