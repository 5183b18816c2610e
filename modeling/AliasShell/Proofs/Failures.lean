/-
What failures leave behind.

A builtin that fails has done nothing, with one exception: it may have been refused by
the output channel.  It writes last, so what it was asked for is done by then, and only
`alias` can have been asked for something: to add an alias or to remove one.  Both are
read off the deeds, of which only a print can be refused.

A program that does not start leaves the aliases, the variables and the directory to the
session, too, and writes nothing for it.  So a line all of whose commands fail, none of
them for its output, leaves a session as it was for all that the session does itself:
`sequence_of_eachFails`.
-/
import AliasShell.Launch.Scripted
import AliasShell.Proofs.Console
import AliasShell.Proofs.Deeds
import AliasShell.Proofs.Dispatch.Sequence

namespace AliasShell

/-- The output channel refused a write. -/
def CommandError.isIo : CommandError → Bool
  | .io _ => true
  | _ => false

namespace Report

/-- There was one failure, and not of the output. -/
def Fails (r : Report) : Prop := ∃ e, e.isIo = false ∧ r = .failure e

theorem fails_iff {r : Report} :
    r.Fails ↔ ∃ e ∈ r.errors, e.isIo = false ∧ r = .failure e := by
  constructor
  · rintro ⟨e, hio, rfl⟩
    exact ⟨e, List.mem_singleton_self e, hio, rfl⟩
  · rintro ⟨e, -, he⟩
    exact ⟨e, he⟩

instance (r : Report) : Decidable r.Fails := decidable_of_iff _ fails_iff.symm

theorem Fails.exit {r : Report} (h : r.Fails) : r.exit = none := by
  obtain ⟨e, -, rfl⟩ := h
  rfl

end Report

/-! ### Builtins -/

namespace Builtin

variable {s : Session} {e : CommandError}

/-- A builtin does a deed. -/
theorem exists_deed {verb : Text} {action : Action} (ha : action? verb = some action)
    (args : List Text) (s : Session) : ∃ d : Deed, action args s = d.perform s := by
  obtain ⟨d, hd, -⟩ :=
    sameDeed_of_action? ha (Session.Alike.akin ⟨rfl, rfl, rfl, rfl, rfl, rfl⟩) args
  exact ⟨d, hd⟩

/-- A deed that fails has left the session as it was, or has been refused by the channel, and then
the variables and the directory are what they were. -/
theorem Deed.perform_error {d : Deed} (h : (d.perform s).2 = .error e) :
    (d.perform s).1 = s ∨
      e.isIo = true ∧ (d.perform s).1.env = s.env ∧ (d.perform s).1.cwd = s.cwd := by
  cases d with
  | fail cause => exact Or.inl rfl
  | exit code => cases h
  | change aliases env cwd => cases h
  | print aliases t =>
      rw [perform, Session.print_eq] at h ⊢
      simp only at h
      split at h
      · cases h
      · obtain rfl := Except.error.inj h
        exact Or.inr ⟨rfl, rfl, rfl⟩

/-- The table `t'` is what `alias` with these arguments was asked to make of `t`. -/
inductive AliasVerb.Asked (t : Aliases) : List Text → Aliases → Prop
  | add {rest : List Text} {name value : Text} (declared : declaration? rest = some (name, value)) :
      Asked t ("add".toList :: rest) (t.add name value)
  | remove (name : Text) (rest : List Text) :
      Asked t ("del".toList :: name :: rest) (t.remove name)

theorem AliasVerb.asked_of_error {args : List Text} (h : (AliasVerb.run args s).2 = .error e) :
    (AliasVerb.run args s).1.aliases = s.aliases ∨
      Asked s.aliases args (AliasVerb.run args s).1.aliases := by
  rcases AliasVerb.run_cases args with
    hrun | ⟨rest, rfl, hrun⟩ | ⟨rest, rfl, hrun⟩ | hrun | ⟨form, hrun⟩ <;> rw [hrun] at h ⊢
  · exact Or.inl (keepsAliases_printLines s _).aliases
  · unfold AliasVerb.add
    split
    · exact Or.inl rfl
    · next hdeclared =>
        rw [(keepsAliases_printLines _ _).aliases]
        exact Or.inr (.add hdeclared)
  · cases rest with
    | nil => exact Or.inl rfl
    | cons name rest =>
        rw [AliasVerb.delete, (keepsAliases_printLines _ _).aliases]
        exact Or.inr (.remove name rest)
  · cases h
  · exact Or.inl rfl

/-- What a builtin that has failed leaves of the session `s`. -/
structure Failed (action : Action) (args : List Text) (s : Session) (e : CommandError)
    (s' : Session) : Prop where
  /-- all of it, unless the channel refused -/
  same : e.isIo = false → s' = s
  /-- and if it did, the variables, the directory, and the aliases but for the one asked for -/
  env : s'.env = s.env
  cwd : s'.cwd = s.cwd
  aliases : s'.aliases = s.aliases ∨
    action = AliasVerb.run ∧ AliasVerb.Asked s.aliases args s'.aliases

/-- **A builtin that fails leaves the session as it was**, up to what it could not write. -/
theorem failed_of_action? {verb : Text} {action : Action} (ha : action? verb = some action)
    {args : List Text} (h : (action args s).2 = .error e) :
    Failed action args s e (action args s).1 := by
  have haliases : (action args s).1.aliases = s.aliases ∨
      action = AliasVerb.run ∧ AliasVerb.Asked s.aliases args (action args s).1.aliases := by
    rcases alias_or_keepsAliases ha args s with rfl | hkeeps
    · exact (AliasVerb.asked_of_error h).imp_right fun hasked => ⟨rfl, hasked⟩
    · exact Or.inl hkeeps.aliases
  obtain ⟨d, hd⟩ := exists_deed ha args s
  rw [hd] at h haliases ⊢
  rcases d.perform_error h with hsame | ⟨hio, henv, hcwd⟩
  · exact ⟨fun _ => hsame, congrArg Session.env hsame, congrArg Session.cwd hsame, haliases⟩
  · have hnot : e.isIo ≠ false := by simp [hio]
    exact ⟨fun hfalse => absurd hfalse hnot, henv, hcwd, haliases⟩

end Builtin

/-! ### Programs -/

/-- Nothing is written for a program that does not start. -/
def Launcher.Silent (l : Launcher) : Prop :=
  ∀ files input past q e, (l.run files input past q).answer = .error e →
    (l.run files input past q).output = []

/-- The aliases, the variables, the directory and the output of `s` are those of `s'` again.  The
session itself has written nothing in between, and neither has the launcher if it is silent. -/
structure Session.Unmoved (l : Launcher) (s s' : Session) : Prop where
  aliases : s'.aliases = s.aliases
  env : s'.env = s.env
  cwd : s'.cwd = s.cwd
  own : s'.console.SameOwn s.console
  bytes : l.Silent → s'.console.bytes = s.console.bytes

namespace Session.Unmoved

variable {l : Launcher} {s s' s'' : Session}

theorem refl (l : Launcher) (s : Session) : Unmoved l s s :=
  ⟨rfl, rfl, rfl, .refl _, fun _ => rfl⟩

theorem trans (h : Unmoved l s s') (h' : Unmoved l s' s'') : Unmoved l s s'' :=
  ⟨h'.aliases.trans h.aliases, h'.env.trans h.env, h'.cwd.trans h.cwd, h'.own.trans h.own,
    fun hl => (h'.bytes hl).trans (h.bytes hl)⟩

theorem launch {q : Request} {e : LaunchError} (h : s.launch l q = (s', .error e)) :
    Unmoved l s s' := by
  obtain ⟨rfl, hanswer⟩ := Prod.mk.inj h
  refine ⟨rfl, rfl, rfl, .childWrote _ _, fun hl => ?_⟩
  simp only [Console.childWrote, Console.bytes, hl _ _ _ _ e hanswer, List.flatMap_append,
    List.flatMap_singleton, List.append_nil]

/-- Requests that all fail move nothing. -/
theorem exchanges {es : List Exchange} (h : s.Exchanges l es s')
    (hfailed : ∀ e ∈ es, ∃ cause, e.2 = .error cause) : Unmoved l s s' := by
  induction h with
  | nil s => exact refl l s
  | cons _ ih =>
      obtain ⟨cause, hcause⟩ := hfailed _ List.mem_cons_self
      exact (launch (Prod.ext rfl hcause)).trans
        (ih fun e he => hfailed e (List.mem_cons_of_mem _ he))

end Session.Unmoved

namespace Executor

/-- Where a program was not started, no request has started anything. -/
theorem Asking.all_failed {x : Executor} {q : Request} {es : List Exchange} {e : LaunchError}
    (h : x.Asking q es (.error e)) : ∀ e' ∈ es, ∃ cause, e'.2 = .error cause := by
  cases h with
  | failed _ _ => simp
  | missing _ _ => simp
  | refused _ _ _ => simp

theorem spawn_unmoved (x : Executor) {program : Text} {args : List Text} {s : Session}
    {e : LaunchError} (he : (x.spawn program args s).2 = .error e) :
    s.Unmoved x.launcher (x.spawn program args s).1 := by
  obtain ⟨es, hexchanges, hasking⟩ := x.spawn_asking program args s
  rw [he] at hasking
  exact .exchanges hexchanges hasking.all_failed

end Executor

/-! ### Lines -/

namespace Dispatch

variable {x : Executor} {s : Session}

theorem ofResult_eq_failure {r : Except CommandError Flow} {e : CommandError}
    (h : Report.ofResult r = .failure e) : r = .error e := by
  rcases r with cause | _ | code
  · have herrors := congrArg Report.errors h
    rw [List.singleton_inj.mp herrors]
  · cases congrArg Report.errors h
  · cases congrArg Report.errors h

/-- A command that fails, and not for its output, leaves the session unmoved. -/
theorem route_unmoved {c : Command} (h : (route x c s).1.Fails) :
    s.Unmoved x.launcher (route x c s).2 := by
  obtain ⟨e, hio, h⟩ := h
  cases ha : Builtin.action? c.verb with
  | some action =>
      rw [route_builtin x ha] at h ⊢
      have hfailed := Builtin.failed_of_action? ha (ofResult_eq_failure h)
      rw [hfailed.same hio]
      exact .refl _ s
  | none =>
      have hspawn := @x.spawn_unmoved c.verb c.args s
      unfold route at h ⊢
      rw [ha] at h ⊢
      simp only at h ⊢
      rcases hs : x.spawn c.verb c.args s with ⟨s', cause | _⟩ <;> rw [hs] at h hspawn
      · exact hspawn rfl
      · cases congrArg Report.errors h

/-- Each of the commands fails when its turn comes, and not for its output. -/
def EachFails (x : Executor) : List Command → Session → Prop
  | [], _ => True
  | c :: cs, s =>
    (command x aliasLimit c s).1.Fails ∧ EachFails x cs (command x aliasLimit c s).2

instance EachFails.decidable (x : Executor) : ∀ cs s, Decidable (EachFails x cs s)
  | [], _ => inferInstanceAs (Decidable True)
  | c :: cs, s =>
    have := EachFails.decidable x cs (command x aliasLimit c s).2
    inferInstanceAs (Decidable (_ ∧ _))

theorem sequence_of_eachFails (cs : List Command) {s : Session}
    (halias : ∀ c ∈ cs, s.aliases.get? c.verb = none) (h : EachFails x cs s) :
    s.Unmoved x.launcher (sequence (command x aliasLimit) cs s).2 := by
  induction cs generalizing s with
  | nil => exact .refl _ s
  | cons c cs ih =>
      obtain ⟨hfails, hrest⟩ := h
      rw [sequence_cons_next hfails.exit]
      rw [command_route (halias c List.mem_cons_self)] at hfails hrest ⊢
      have hc := route_unmoved hfails
      -- no alias has come into being, so none of the other verbs is one
      have hothers : ∀ d ∈ cs, (route x c s).2.aliases.get? d.verb = none := by
        intro d hd
        rw [hc.aliases]
        exact halias d (List.mem_cons_of_mem c hd)
      exact hc.trans (ih hothers hrest)

/-- **Failures leave no trace**: not a builtin that fails, up to what it could not write, and not a
line of nothing but failures. -/
theorem failures_leave_no_trace :
    (∀ (verb : Text) (action : Action), Builtin.action? verb = some action →
      ∀ (args : List Text) (s : Session) (e : CommandError), (action args s).2 = .error e →
        Builtin.Failed action args s e (action args s).1) ∧
    ∀ (x : Executor) (line : Text) (s : Session),
      (∀ c ∈ commands line, s.aliases.get? c.verb = none) → EachFails x (commands line) s →
        s.Unmoved x.launcher (run x line s).2 := by
  constructor
  · intro verb action ha args s e h
    exact Builtin.failed_of_action? ha h
  · intro x line s halias h
    exact sequence_of_eachFails (commands line) halias h

/-- A channel without room refuses what `alias add` has to say, and the alias is there all the same;
a line of failures of every kind changes nothing. -/
theorem failures_leave_no_trace_full_channel :
    let x : Executor := ⟨Scripted.launcher ⟨["nope", "sh"], ["locked"], [], []⟩, some ⟨"sh", "-c"⟩⟩
    let s : Session := { Session.fresh "/" with console := .limited 3 }
    let line : Text := "cd /nowhere; nope 1; var match N = 1/0; var del =; alias rm x; locked"
    Builtin.Failed Builtin.AliasVerb.run ["add", "a=b"] s (.io Console.fullReason)
        (Builtin.AliasVerb.run ["add", "a=b"] s).1 ∧
      (Builtin.AliasVerb.run ["add", "a=b"] s).1.aliases.get? "a" = some "b" ∧
      s.Unmoved x.launcher (run x line s).2 ∧
      (run x line s).1.errors.length = 6 ∧ (run x line s).2.requests.length = 3 := by
  intro x s line
  refine ⟨?_, by decide +kernel, ?_, by decide +kernel, by decide +kernel⟩
  · exact failures_leave_no_trace.1 "alias" _ rfl _ s _ rfl
  · exact failures_leave_no_trace.2 x line s (by decide +kernel) (by decide +kernel)

end Dispatch

end AliasShell
