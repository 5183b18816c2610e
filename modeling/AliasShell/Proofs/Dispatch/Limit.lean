/-
How often a command may be replaced.

`runText` counts down by one with each replacement, and a text that is reached at 0
is reported and not looked at.  A line starts at 21, so a text that is reached
through `d` replacements runs at `21 - d`: 20 of them are made, the next is refused.

The number is nothing but a bound: `runText_mono` says that a text which did not
run into it would have done the same one number higher.  That is what makes an
alias stand for its text, in `alias_transparent`: `v a b` runs the text of `v` one
replacement deeper than the text itself would run, and the difference only ever
shows at the bound.

Where no replacement holds a `;`, a line of one command stays one command, and the
whole expansion is a chain of token lists.  `Resolves` counts its steps, and
`run_resolves` is the bound as a user meets it: a chain of at most 20 steps ends in
the command it leads to, and a longer one, or one that never ends, does nothing.
-/
import AliasShell.Launch.Scripted
import AliasShell.Proofs.Dispatch.Sequence

namespace AliasShell

namespace Dispatch

/-! ### More replacements change nothing -/

/-- A text that stays within the limit runs the same where one more replacement could be made. -/
theorem runText_mono (x : Executor) :
    ∀ (left : Nat) (t : Text) (s : Session), (runText x left t s).1.WithinLimit →
      runText x (left + 1) t s = runText x left t s := by
  intro left
  induction left with
  | zero =>
      intro t s h
      have hlimit := h (.recursionLimit t.trim aliasLimit) (List.mem_singleton_self _)
      cases hlimit
  | succ left ih =>
      intro t s h
      rw [runText_succ] at h ⊢
      rw [runText_succ]
      -- the commands are the same; only a replacement looks at how many are left
      refine sequence_of_withinLimit (fun c _ s hc => ?_) s h
      cases ha : s.aliases.get? c.verb with
      | none => rw [command_route ha, command_route ha]
      | some r =>
          rw [command_alias ha] at hc
          rw [command_alias ha, command_alias ha, ih _ _ hc]

/-- A line that is one command runs it with 20 replacements left. -/
theorem run_of_commands {x : Executor} {line : Text} {c : Command} (h : commands line = [c])
    (s : Session) : run x line s = command x aliasLimit c s := by
  rw [run, runText_succ, h, sequence_singleton]

/-- A line that is one builtin runs it. -/
theorem run_builtin (x : Executor) {line : Text} {c : Command} {s : Session} {action : Action}
    (hline : commands line = [c]) (halias : s.aliases.get? c.verb = none)
    (haction : Builtin.action? c.verb = some action) :
    run x line s = (.ofResult (action c.args s).2, (action c.args s).1) := by
  rw [run_of_commands hline, command_route halias, route_builtin x haction]

/-- **An alias stands for its text.**  A line `v a₁ … aₙ` whose verb is an alias does exactly what
the text of the alias with `a₁ … aₙ` behind it does, unless it replaces aliases too often: the same
report and the same session afterwards.  The reason is the second half, for a text reached through
any number `d` of replacements, which runs at `21 - d`: what it does within the limit after one
replacement more, it does as it is. -/
theorem alias_transparent (x : Executor) :
    (∀ (s : Session) (v r : Text) (args : List Text), s.aliases.get? v = some r →
      IsToken v → (∀ a ∈ args, IsToken a) →
      (run x (Text.unwords (v :: args)) s).1.WithinLimit →
        run x (Text.unwords (r :: args)) s = run x (Text.unwords (v :: args)) s) ∧
    ∀ (left : Nat) (t : Text) (s : Session), (runText x left t s).1.WithinLimit →
      runText x (left + 1) t s = runText x left t s := by
  refine ⟨fun s v r args hr hv hargs hlim => ?_, runText_mono x⟩
  have htokens : ∀ w ∈ (Command.mk v args).toWords, IsToken w := by
    intro w hw
    rcases List.mem_cons.mp hw with rfl | hw'
    · exact hv
    · exact hargs w hw'
  have hone : commands (Text.unwords (v :: args)) = [⟨v, args⟩] := commands_unwords htokens
  -- the alias costs the one line a replacement that the other still has
  have hshort : run x (Text.unwords (v :: args)) s =
      runText x aliasLimit ((Command.mk v args).withVerb r) s := by
    rw [run_of_commands hone, command_alias hr]
  have hlong : run x (Text.unwords (r :: args)) s =
      runText x (aliasLimit + 1) ((Command.mk v args).withVerb r) s := by
    refine runText_congr ?_ x aliasLimit s
    rw [tokenLists_unwords_cons r hargs, tokenLists_withVerb hargs]
  rw [hshort] at hlim ⊢
  rw [hlong]
  exact runText_mono x aliasLimit _ s hlim

/-- An alias that deletes itself before its text names it again.  When its turn comes, the second
word is no alias any more, in either line. -/
theorem alias_transparent_deleted :
    let x : Executor := ⟨Scripted.launcher ⟨[], [], [], []⟩, none⟩
    let s : Session :=
      { Session.fresh "/" with aliases := .ofList [("once", "alias del once ; once")] }
    IsToken "once" ∧ IsToken "more" ∧
      (run x (Text.unwords ["once", "more"]) s).1.WithinLimit ∧
      run x (Text.unwords ["alias del once ; once", "more"]) s =
        run x (Text.unwords ["once", "more"]) s ∧
      (runText x 2 "once more" s).1.WithinLimit ∧
      runText x 3 "once more" s = runText x 2 "once more" s := by
  intro x s
  have hv : IsToken "once" := by decide
  have hargs : ∀ a ∈ [("more" : Text)], IsToken a := by decide
  have hlim : (run x (Text.unwords ["once", "more"]) s).1.WithinLimit := by decide +kernel
  have hlim' : (runText x 2 "once more" s).1.WithinLimit := by decide +kernel
  obtain ⟨htransparent, hmono⟩ := alias_transparent x
  exact ⟨hv, hargs "more" (by simp), hlim,
    htransparent s "once" "alias del once ; once" ["more"] rfl hv hargs hlim,
    hlim', hmono 2 "once more" s hlim'⟩

/-! ### The chain of a command -/

/-- One replacement on a list of tokens, if the first of them is an alias. -/
def expand? (table : Aliases) : List Text → Option (List Text)
  | [] => none
  | verb :: args => (table.get? verb).map fun r => r.words ++ args

/-- `k` replacements lead from `t` to `u`, where nothing is left to replace. -/
inductive Resolves (table : Aliases) : List Text → Nat → List Text → Prop
  | done {t : List Text} (h : expand? table t = none) : Resolves table t 0 t
  | step {t t' u : List Text} {k : Nat} (h : expand? table t = some t')
      (rest : Resolves table t' k u) : Resolves table t (k + 1) u

/-- There is one number of steps, and one end. -/
theorem Resolves.unique {table : Aliases} {t u u' : List Text} {k k' : Nat}
    (h : Resolves table t k u) (h' : Resolves table t k' u') : k = k' ∧ u = u' := by
  induction h generalizing k' u' with
  | done hn =>
      cases h' with
      | done _ => exact ⟨rfl, rfl⟩
      | step hs _ => rw [hn] at hs; cases hs
  | step hs _ ih =>
      cases h' with
      | done hn => rw [hn] at hs; cases hs
      | step hs' rest =>
          rw [hs, Option.some.injEq] at hs'
          subst hs'
          obtain ⟨rfl, rfl⟩ := ih rest
          exact ⟨rfl, rfl⟩

theorem expand?_eq_none_iff {table : Aliases} {t : List Text} :
    expand? table t = none ↔ ∀ c, Command.ofWords? t = some c → table.get? c.verb = none := by
  cases t with
  | nil => simp [expand?, Command.ofWords?]
  | cons verb args => simp [expand?, Command.ofWords?]

section Plain

variable {x : Executor} {s : Session} (hplain : ∀ e ∈ s.aliases.entries, ';' ∉ e.2)

include hplain

/-- A text that is one command and can be replaced once runs what the replacement makes of it. -/
theorem runText_expand (left : Nat) {text : Text} {t t' : List Text}
    (htext : commands text = (Command.ofWords? t).toList) (h : expand? s.aliases t = some t') :
    ∃ text', commands text' = (Command.ofWords? t').toList ∧
      runText x (left + 1) text s = runText x left text' s := by
  cases t with
  | nil => cases h
  | cons verb args =>
      obtain ⟨r, hr, rfl⟩ := Option.map_eq_some_iff.mp h
      have hc : commands text = [⟨verb, args⟩] := htext
      have hmem : Command.mk verb args ∈ commands text := by rw [hc]; simp
      have hargs : ∀ w ∈ args, IsToken w := isToken_of_mem_args hmem
      refine ⟨(Command.mk verb args).withVerb r, ?_, ?_⟩
      · exact commands_withVerb_of_not_mem hargs (hplain _ (Aliases.mem_of_get? hr))
      · rw [runText_succ, hc, sequence_singleton, command_alias hr]

/-- A chain that is no longer than the replacements left ends in the command it leads to. -/
theorem runText_of_resolves {t u : List Text} {k : Nat} (h : Resolves s.aliases t k u) :
    ∀ {left : Nat} {text : Text}, commands text = (Command.ofWords? t).toList → k ≤ left →
      runText x (left + 1) text s =
        match Command.ofWords? u with
        | some c => route x c s
        | none => (.quiet, s) := by
  induction h with
  | @done t hn =>
      intro left text htext _
      rw [runText_succ, htext]
      cases hc : Command.ofWords? t with
      | none => rfl
      | some c =>
          rw [Option.toList_some, sequence_singleton,
            command_route (expand?_eq_none_iff.mp hn c hc)]
  | step hs _ ih =>
      intro left text htext hk
      obtain ⟨text', htext', hrun⟩ := runText_expand (x := x) hplain left htext hs
      rw [hrun]
      cases left with
      | zero => omega
      | succ left => exact ih htext' (by omega)

/-- A chain that is longer than the replacements left does nothing. -/
theorem runText_of_not_resolves :
    ∀ {left : Nat} {text : Text} {t : List Text}, commands text = (Command.ofWords? t).toList →
      (∀ k u, Resolves s.aliases t k u → left ≤ k) →
      ∃ quoted, runText x left text s = (.failure (.recursionLimit quoted aliasLimit), s) := by
  -- on the replacements left: each one taken makes the chain as much shorter
  intro left
  induction left with
  | zero => intro text t _ _; exact ⟨text.trim, rfl⟩
  | succ left ih =>
      intro text t htext hlong
      cases hs : expand? s.aliases t with
      | none => exact absurd (hlong 0 t (.done hs)) (by omega)
      | some t' =>
          obtain ⟨text', htext', hrun⟩ := runText_expand (x := x) hplain left htext hs
          rw [hrun]
          refine ih htext' fun k u hk => ?_
          have := hlong (k + 1) u (.step hs hk)
          omega

end Plain

/-- **A chain of at most 20 replacements ends in the command it leads to, and a longer one does
nothing.**  `t` are the words of a line with no more than one command, and `k` counts the
replacements until the first word is no alias or no word is left.  Up to 20 of them, the line routes
what they lead to, once, and reports what that command reports; with no word left it does nothing.
Beyond, cycles of every shape included, the session stays as it is and the limit is all that is
reported. -/
theorem run_resolves (x : Executor) (s : Session) (line : Text) (t : List Text)
    (hplain : ∀ e ∈ s.aliases.entries, ';' ∉ e.2)
    (hline : commands line = (Command.ofWords? t).toList) :
    (∀ k u, Resolves s.aliases t k u → k ≤ 20 →
      (run x line s =
        match u with
        | verb :: args => route x ⟨verb, args⟩ s
        | [] => (⟨[], none⟩, s)) ∧
      (run x line s).1.errors.length ≤ 1 ∧ (run x line s).1.WithinLimit) ∧
    ((∀ k u, Resolves s.aliases t k u → 20 < k) →
      ∃ quoted, run x line s = (⟨[.recursionLimit quoted 20], none⟩, s)) := by
  refine ⟨fun k u h hk => ?_, runText_of_not_resolves hplain hline⟩
  have hrun : run x line s =
      match Command.ofWords? u with
      | some c => route x c s
      | none => (.quiet, s) := runText_of_resolves hplain h hline hk
  rw [hrun]
  cases u with
  | nil => exact ⟨rfl, Nat.zero_le 1, by simp [Report.WithinLimit, Command.ofWords?, Report.quiet]⟩
  | cons verb args => exact ⟨rfl, route_errors x ⟨verb, args⟩ s⟩

/-- A chain of two steps, through a blank text that makes the first argument the verb; and a cycle,
each turn of which leaves one more argument behind. -/
theorem run_resolves_blank_cycle :
    let x : Executor := ⟨Scripted.launcher ⟨[], [], [], []⟩, none⟩
    let s : Session :=
      { Session.fresh "/" with aliases := .ofList [("", "x"), ("say", " print "), ("do", " "),
          ("loop", "loop again")] }
    (Resolves s.aliases ["do", "say", "hi"] 2 ["print", "hi"] ∧
      run x "do say hi" s = route x ⟨"print", ["hi"]⟩ s) ∧
    (∀ k u, Resolves s.aliases ["loop"] k u → 20 < k) ∧
      ∃ quoted, run x "loop" s = (⟨[.recursionLimit quoted 20], none⟩, s) := by
  intro x s
  have hplain : ∀ e ∈ s.aliases.entries, ';' ∉ e.2 := by decide
  have hdone : Resolves s.aliases ["print", "hi"] 0 ["print", "hi"] := .done (by decide)
  have hsay : Resolves s.aliases ["say", "hi"] 1 ["print", "hi"] := .step (by decide) hdone
  have hchain : Resolves s.aliases ["do", "say", "hi"] 2 ["print", "hi"] :=
    .step (by decide) hsay
  have hcycle : ∀ k rest u, ¬ Resolves s.aliases ("loop".toList :: rest) k u := by
    intro k
    induction k with
    | zero => rintro rest u ⟨h⟩; cases h
    | succ k ih =>
        intro rest u h
        cases h with
        | step h h' =>
            obtain rfl := Option.some.inj h
            exact ih _ u h'
  have hlong : ∀ k u, Resolves s.aliases ["loop"] k u → 20 < k := fun k u h =>
    absurd h (hcycle k [] u)
  refine ⟨⟨hchain, ?_⟩, hlong, ?_⟩
  · exact ((run_resolves x s "do say hi" ["do", "say", "hi"] hplain (by decide)).1 2
      ["print", "hi"] hchain (by decide)).1
  · exact (run_resolves x s "loop" ["loop"] hplain (by decide)).2 hlong

end Dispatch

end AliasShell
