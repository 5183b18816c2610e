/-
Names of variables.

What stands behind `$` or behind `var del` is one token, so a variable can be shown and
removed if its name is a token.  A name that is given to `cd` or to `var match` is one.  In a
plain assignment the name is all that stands in front of the `=`, and it may be several
words: `Spaced`.

`isToken_or_spaced` is that there is no third way to a name, and `Leads.came` that every
variable has come in one of them.  `names_reached` puts them together: what can be reached
again are the tokens, and a name of several words is there for good.
-/
import AliasShell.Proofs.Assigned
import AliasShell.Proofs.Dispatch.Variables

namespace AliasShell

open Environment (Change)

/-! ### Where a name comes from -/

/-- The command sets a variable whose name is several words, joined with spaces: those in front of
the first `=` of its arguments. -/
def Command.Spaced (c : Command) (name : Text) : Prop :=
  c.verb = "var" ∧ ∃ a b, Text.unwords c.args = a ++ '=' :: b ∧ '=' ∉ a ∧
    name = Text.unwords a.words ∧ 2 ≤ a.words.length

namespace Builtin.Var

/-- What an assignment asks for are the words on either side of the first `=`. -/
theorem exists_of_assignment? {args : List Text} (hargs : ∀ w ∈ args, Text.IsWord w)
    {name value : Text} (h : assignment? args = some (name, value)) :
    ∃ a b : Text, Text.unwords args = a ++ '=' :: b ∧ '=' ∉ a ∧ a.words ≠ [] ∧
      name = Text.unwords a.words ∧ value = Text.unwords b.words := by
  by_cases hequals : '=' ∈ Text.unwords args
  · obtain ⟨a, b, hjoined, ha⟩ := List.eq_append_cons_of_mem hequals
    have hwords : args = Text.words (a ++ '=' :: b) := by rw [← hjoined, Text.words_unwords hargs]
    rw [hwords, assignment?_words ha] at h
    split at h
    · cases h
    · next hne =>
        obtain ⟨rfl, rfl⟩ := Prod.mk.inj (Option.some.inj h)
        exact ⟨a, b, hjoined, ha, hne, rfl, rfl⟩
  · rw [assignment?, Text.cutFirst_eq_none_iff.mpr hequals] at h
    cases h

/-- The name in an assignment is one word or several. -/
theorem isToken_or_several {args : List Text} (hargs : ∀ w ∈ args, IsToken w) {name value : Text}
    (h : assignment? args = some (name, value)) :
    IsToken name ∨ ∃ a b, Text.unwords args = a ++ '=' :: b ∧ '=' ∉ a ∧
      name = Text.unwords (Text.words a) ∧ 2 ≤ (Text.words a).length := by
  obtain ⟨a, b, hjoined, ha, hne, rfl, -⟩ :=
    exists_of_assignment? (fun w hw => (hargs w hw).toIsWord) h
  have htokens : ∀ w ∈ a.words, IsToken w := by
    intro w hw
    refine ⟨Text.mem_words hw, fun hsep => separator_not_mem_unwords hargs ?_⟩
    rw [hjoined]
    exact List.mem_append_left _ (Text.mem_of_mem_words hw _ hsep)
  cases hwords : a.words with
  | nil => exact absurd hwords hne
  | cons v vs =>
      cases vs with
      | nil =>
          rw [Text.unwords_singleton]
          exact Or.inl (htokens v (by simp [hwords]))
      | cons w ws => exact Or.inr ⟨a, b, hjoined, ha, by rw [hwords], by simp [hwords]⟩

/-- `var` names a variable by a token, or it sets one whose name is several words. -/
theorem isToken_or_spaced {evaluator : Text → Except CalcError Text} {args : List Text}
    (hargs : ∀ w ∈ args, IsToken w) {c : Change} (h : wanted? evaluator args = some c) :
    IsToken c.name ∨ (∃ value, c = .put c.name value) ∧ Command.Spaced ⟨"var", args⟩ c.name := by
  have hplain : ∀ {c : Change}, assigned? args = some c →
      IsToken c.name ∨ (∃ value, c = .put c.name value) ∧ Command.Spaced ⟨"var", args⟩ c.name := by
    intro c h
    obtain ⟨⟨name, value⟩, hassigned, rfl⟩ := Option.map_eq_some_iff.mp h
    exact (isToken_or_several hargs hassigned).imp_right fun hspaced =>
      ⟨⟨value, rfl⟩, rfl, hspaced⟩
  cases args with
  | nil => cases h
  | cons word rest =>
      unfold wanted? at h
      simp only at h
      split at h
      · -- `del` names its first argument
        obtain ⟨name, hname, rfl⟩ := Option.map_eq_some_iff.mp h
        exact Or.inl (hargs name (List.mem_cons_of_mem word (List.mem_of_mem_head? hname)))
      · split at h
        · split at h
          · next name w ws =>
              obtain ⟨value, -, rfl⟩ := Option.map_eq_some_iff.mp h
              exact Or.inl (hargs name (by simp))
          · exact hplain h
        · exact hplain h

end Builtin.Var

namespace Dispatch

/-- **A command names a variable by a token, or it sets one whose name is several words.** -/
theorem isToken_or_spaced {c : Command} (hc : ∀ w ∈ c.toWords, IsToken w) {s : Session}
    {change : Change} (h : wanted? c s = some change) :
    IsToken change.name ∨ (∃ value, change = .put change.name value) ∧ c.Spaced change.name := by
  unfold wanted? at h
  split at h
  · rw [Builtin.Cd.wanted?] at h
    split at h
    · cases h
    · split at h
      · cases h
      · split at h
        · cases h
          exact Or.inl (show IsToken Builtin.Cd.workingDir by decide)
        · cases h
  · split at h
    · next hverb =>
        have hargs : ∀ w ∈ c.args, IsToken w := fun w hw => hc w (List.mem_cons_of_mem c.verb hw)
        refine (Builtin.Var.isToken_or_spaced hargs h).imp_right fun ⟨hput, hspaced⟩ => ?_
        exact ⟨hput, hverb, hspaced.2⟩
    · cases h

/-- **A variable that is listed was there from the beginning, or a turn has put it there.** -/
theorem Leads.came {x : Executor} {s s' : Session} {ts : List Turn} (h : Leads x s ts s') :
    ∀ v ∈ s'.env.list, v ∈ s.env.list ∨ ∃ t ∈ ts, t.change? = some (.put v.1 v.2) := by
  refine h.keeps (P := fun p => ∀ v ∈ p.env.list,
    v ∈ s.env.list ∨ ∃ t ∈ ts, t.change? = some (.put v.1 v.2)) ?_ fun v hv => Or.inl hv
  intro t ht hsession v hv
  cases hc : t.change? with
  | none =>
      rw [Turn.env_of_none hc] at hv
      exact hsession v hv
  | some c =>
      obtain hv | rfl := Environment.mem_list_of_change (Turn.env_of_change hc) hv
      · exact hsession v hv
      · exact Or.inr ⟨t, ht, hc⟩

end Dispatch

/-! ### What is found in the end -/

namespace Environment

/-- What is made of variables is what they were, or one change. -/
theorem altered_cases (e : Environment) (wanted : Option Change) :
    e.altered wanted = e ∨ ∃ c, wanted = some c ∧ e.change c = .ok (e.altered wanted) := by
  cases wanted with
  | none => exact Or.inl rfl
  | some c =>
      cases hchange : e.change c with
      | ok e' => exact Or.inr ⟨c, rfl, by rw [altered, hchange]⟩
      | error _ => exact Or.inl (by rw [altered, hchange])

/-- A session's own variables stay its own, and every name is found as it was but for one. -/
theorem sorted_of_change {d : SortedEnv} {e : Environment} {c : Change}
    (h : (sorted d).change c = .ok e) :
    ∃ d', e = sorted d' ∧
      ∀ other, d'.get? other = if other = c.name then c.value? else d.get? other := by
  cases c with
  | put name value =>
      have hset : (sorted d).set name value = .ok e := h
      obtain ⟨-, -, ⟨_, d', ⟨⟩, rfl, hvars⟩ | ⟨_, ⟨⟩, -⟩⟩ := set_cases hset
      refine ⟨d', rfl, fun other => ?_⟩
      rw [SortedEnv.get?, hvars]
      split
      · next heq => rw [heq]; exact SortedEnv.lookup_insert_self
      · next hne => exact SortedEnv.lookup_insert_other hne
  | drop name =>
      have hunset : (sorted d).unset name = .ok e := h
      obtain ⟨-, ⟨_, d', ⟨⟩, rfl, hvars⟩ | ⟨_, ⟨⟩, -⟩⟩ := unset_cases hunset
      refine ⟨d', rfl, fun other => ?_⟩
      rw [SortedEnv.get?, hvars, SortedEnv.lookup_filter]
      rfl

end Environment

namespace Dispatch

/-- A command leaves a session's own variables its own, and makes one change in them at most. -/
theorem route_sorted (x : Executor) (c : Command) {s : Session} {d : SortedEnv}
    (hd : s.env = .sorted d) :
    ∃ d', (route x c s).2.env = .sorted d' ∧ (d' = d ∨ ∃ change, wanted? c s = some change ∧
      ∀ other, d'.get? other = if other = change.name then change.value? else d.get? other) := by
  rw [route_env]
  obtain hsame | ⟨change, hwanted, hchange⟩ := s.env.altered_cases (wanted? c s)
  · exact ⟨d, hsame.trans hd, Or.inl rfl⟩
  · rw [hd] at hchange ⊢
    obtain ⟨d', hd', hget⟩ := Environment.sorted_of_change hchange
    exact ⟨d', hd', Or.inr ⟨change, hwanted, hget⟩⟩

/-- After lines, they are still its own. -/
theorem after_sorted (x : Executor) (lines : List Text) {s : Session}
    (hs : ∃ d, s.env = .sorted d) : ∃ d, (after x lines s).env = .sorted d := by
  refine after_keeps (P := fun s => ∃ d, s.env = .sorted d) (fun c _ s hs => ?_) lines hs
  obtain ⟨d, hd⟩ := hs
  obtain ⟨d', hd', -⟩ := route_sorted x c hd
  exact ⟨d', hd'⟩

/-- The session has a variable of its own under the name. -/
def Has (name : Text) (s : Session) : Prop :=
  ∃ d value, s.env = .sorted d ∧ d.get? name = some value

/-- **What has a name that is no token is never removed.** -/
theorem after_has (x : Executor) (lines : List Text) {s : Session} {name : Text}
    (hname : ¬ IsToken name) (hs : Has name s) : Has name (after x lines s) := by
  refine after_keeps (P := Has name) (fun c hc s hs => ?_) lines hs
  obtain ⟨d, value, hd, hvalue⟩ := hs
  obtain ⟨d', hd', rfl | ⟨change, hwanted, hget⟩⟩ := route_sorted x c hd
  · exact ⟨d', value, hd', hvalue⟩
  · by_cases heq : name = change.name
    · -- only a value can be put under it, not taken from there
      obtain htoken | ⟨⟨value', hput⟩, -⟩ := isToken_or_spaced hc hwanted
      · exact absurd (heq ▸ htoken) hname
      · exact ⟨d', value', hd', by rw [hget, if_pos heq, hput]; rfl⟩
    · exact ⟨d', value, hd', by rw [hget, if_neg heq, hvalue]⟩

/-- A token behind `var del` is a name. -/
theorem run_del (x : Executor) {s : Session} {name : Text} (hvar : s.aliases.get? "var" = none)
    (hname : IsToken name) :
    run x ("var del " ++ name) s = (.ofResult (s.unsetVar name).2, (s.unsetVar name).1) := by
  have hline : "var del ".toList ++ name = Text.unwords ["var", "del", name] := by
    have hfront : "var del ".toList = "var".toList ++ ' ' :: ("del".toList ++ [' ']) := rfl
    rw [hfront, Text.unwords_cons_cons, Text.unwords_cons_cons, Text.unwords_singleton]
    simp only [List.append_assoc, List.cons_append, List.nil_append]
  have htokens : ∀ w ∈ (Command.mk "var" ["del", name]).toWords, IsToken w := by
    have hverbs : IsToken "var".toList ∧ IsToken "del".toList := by decide
    exact List.forall_mem_cons.mpr ⟨hverbs.1, List.forall_mem_cons.mpr ⟨hverbs.2,
      List.forall_mem_singleton.mpr hname⟩⟩
  have haction : Builtin.action? "var" = some Builtin.Var.run := rfl
  rw [hline]
  exact run_builtin x (commands_unwords htokens) hvar haction

/-- It is the name of what is removed then, if it can be one. -/
theorem run_del_sorted (x : Executor) {s : Session} {d : SortedEnv} {name : Text}
    (hvar : s.aliases.get? "var" = none) (hd : s.env = .sorted d) (hname : IsToken name)
    (hvalid : Environment.ValidName name) :
    ∃ env, run x ("var del " ++ name) s = (.quiet, { s with env }) ∧ env.get? name = none ∧
      env.list = s.env.list.filter fun v => v.1 != name := by
  have hunset : s.env.unset name =
      .ok (.sorted ⟨d.vars.filter fun v => v.1 != name, d.ascending.filter _⟩) := by
    rw [hd, Environment.unset, SortedEnv.unset, Environment.checkingName, if_pos hvalid]
    rfl
  rw [run_del x hvar hname, Session.unsetVar, hunset, hd]
  exact ⟨_, rfl, (SortedEnv.lookup_filter d.vars).trans (if_pos rfl), rfl⟩

/-- **A variable whose name is a token can be shown and removed, and no other one is ever removed.**
The others were set in a plain assignment, with several words in front of the `=`. -/
theorem names_reached (x : Executor) (lines : List Text) {s : Session}
    (hs : s.env = .sorted .empty) :
    let s' := after x lines s
    ∀ v ∈ s'.env.list,
      (IsToken v.1 → ∀ y : Executor,
        (s'.aliases.get? "print" = none → run y ("print $" ++ v.1) s' =
          (.ofResult (s'.print (v.2 ++ ['\n'])).2, (s'.print (v.2 ++ ['\n'])).1)) ∧
        (s'.aliases.get? "var" = none →
          ∃ env, run y ("var del " ++ v.1) s' = (.quiet, { s' with env }) ∧
            env.get? v.1 = none ∧ env.list = s'.env.list.filter fun w => w.1 != v.1)) ∧
      (¬ IsToken v.1 →
        (∃ t ∈ history x lines s, t.change? = some (.put v.1 v.2) ∧ t.command.Spaced v.1) ∧
        ∀ (y : Executor) (more : List Text),
          ∃ value, (v.1, value) ∈ (after y more s').env.list) := by
  intro s' v hv
  obtain ⟨d, hd⟩ : ∃ d, s'.env = .sorted d := after_sorted x lines ⟨_, hs⟩
  obtain ⟨t, ht, hput⟩ : ∃ t ∈ history x lines s, t.change? = some (.put v.1 v.2) := by
    refine ((leads_history lines s).came v hv).resolve_left fun hmem => ?_
    rw [hs] at hmem
    cases hmem
  have hget : d.get? v.1 = some v.2 := by
    rw [hd] at hv
    exact lookup_of_mem (nodup_of_ascending d.ascending) hv
  refine ⟨fun htoken y => ⟨fun hprint => ?_, fun hvar => ?_⟩, fun htoken => ⟨?_, ?_⟩⟩
  · exact run_print y hprint htoken (by rw [hd]; exact hget)
  · have hset : t.session.env.set v.1 v.2 = .ok (t.left x).env := Turn.env_of_change hput
    exact run_del_sorted y hvar hd htoken (Environment.set_cases hset).1
  · obtain hname | ⟨-, hspaced⟩ :=
      isToken_or_spaced (isToken_of_mem_history ht) (Option.filter_eq_some_iff.mp hput).1
    · exact absurd hname htoken
    · exact ⟨t, ht, hput, hspaced⟩
  · intro y more
    obtain ⟨d', value, hd', hvalue⟩ := after_has y more htoken ⟨d, v.2, hd, hget⟩
    obtain ⟨front, rest, hvars, -⟩ := List.lookup_eq_some_iff.mp hvalue
    refine ⟨value, ?_⟩
    rw [hd', Environment.list, hvars]
    simp

/-- Names from every form, one of them through an alias and with an ideographic space in it. -/
theorem names_reached_forms :
    let x : Executor := ⟨Scripted.launcher ⟨[], [], [], []⟩, none⟩
    let s : Session := { Session.fresh "/" with
      files := { nodes := [(["d".toList], .ofDir 0)], current := [] } }
    let lines : List Text :=
      ["var A=1; cd d; var match C = 6*7", "alias add set=var; set X\u3000Y = 2"]
    let s' := after x lines s
    let listed : List (Text × Text) := [("A", "1"), ("C", "42"), ("PWD", "/d"), ("X Y", "2")]
    let rest : List (Text × Text) := [("A", "1"), ("C", "42"), ("X Y", "2")]
    s'.env.list = listed ∧
      run x ("print $" ++ ("C" : Text)) s' =
        (.ofResult (s'.print "42\n").2, (s'.print "42\n").1) ∧
      (∃ env, run x ("var del " ++ ("PWD" : Text)) s' = (.quiet, { s' with env }) ∧
        env.list = rest) ∧
      ∀ (y : Executor) (more : List Text),
        ∃ value, (("X Y" : Text), value) ∈ (after y more s').env.list := by
  intro x s lines s' listed rest
  have hlist : s'.env.list = listed := by decide +kernel
  have hverbs : s'.aliases.get? "print" = none ∧ s'.aliases.get? "var" = none := by decide +kernel
  have hreached : ∀ v ∈ listed, _ := fun v hv =>
    names_reached x lines (s := s) rfl v (show v ∈ s'.env.list from hlist ▸ hv)
  refine ⟨hlist, ?_, ?_, ?_⟩
  · exact ((hreached ("C", "42") (by decide)).1 (by decide) x).1 hverbs.1
  · obtain ⟨env, hrun, -, hrest⟩ :=
      ((hreached ("PWD", "/d") (by decide)).1 (by decide) x).2 hverbs.2
    have hkept : (listed.filter fun w => w.1 != ("PWD" : Text)) = rest := by decide
    exact ⟨env, hrun, by rw [hrest, ← hkept, ← hlist]⟩
  · exact ((hreached ("X Y", "2") (by decide)).2 (by decide)).2

/-- In front of the `=` may be two words.  Then neither `print` nor `var del` gets hold of the name:
they take its first word for one. -/
theorem names_unreached :
    let x : Executor := ⟨Scripted.launcher ⟨[], [], [], []⟩, none⟩
    let s : Session := Session.fresh "/"
    let s' := after x ["var A B=1"] s
    let listed : List (Text × Text) := [("A B", "1")]
    s.env = .sorted .empty ∧ s'.aliases = .empty ∧ s'.env.list = listed ∧
      ¬ (∀ v ∈ s'.env.list, IsToken v.1) ∧
      (run x "print $A B" s').2.console.bytes = Text.encode " B\n" ∧
      (run x "var del A B" s').2.env.list = listed := by
  intro x s s' listed
  have hlist : s'.env.list = listed := by decide +kernel
  refine ⟨rfl, by decide +kernel, hlist, fun hall => ?_, by decide +kernel, by decide +kernel⟩
  have htoken : IsToken "A B" := hall ("A B", "1") (by rw [hlist]; exact List.mem_cons_self)
  exact absurd htoken (by decide)

end Dispatch

end AliasShell
