/-
What does not steer the shell.

Two runs of the same lines begin in sessions that agree in their aliases, variables, directory,
home, evaluator and files.  Their output channels may take everything or break off anywhere, and the
programs they start may end in any way or not start at all, as long as they leave the files alone.
Then the two runs agree in the same things after every line, exit alike, and report the same
failures but for those of writes and launches.

They also ask for the same programs.  What is asked for because an interpreter stands behind a
program that is not there is left out of that comparison: such a request is made in answer to the
launcher.  `attempts` tells them apart, by putting the requests of a run to the launcher again.

A builtin does the same in both, and it changes its session before it writes, so the writes can
differ in nothing but whether they fail: that is `agree_print`, and `agree_of_action?` says it of
every builtin.  A program changes nothing that counts, whatever becomes of it: `spawn_alike`.
-/
import AliasShell.Launch.Scripted
import AliasShell.Proofs.Deeds
import AliasShell.Proofs.Dispatch.Sequence
import Mathlib.Data.List.Forall2

namespace AliasShell

/-! ### Requests made first -/

namespace Executor

/-- After this answer the interpreter is asked. -/
def retries (x : Executor) (answer : Except LaunchError Ending) : Bool :=
  match answer, x.fallback with
  | .error (.notFound _), some _ => true
  | _, _ => false

theorem retries_notFound (x : Executor) (p : Text) :
    x.retries (.error (.notFound p)) = x.fallback.isSome := by
  unfold retries
  cases x.fallback <;> rfl

/-- The requests among these that were made for commands and not for the interpreter behind them.
The launcher is given each of them as it was then, with these files, this input and these requests
before; `again` says that the first of them is one for the interpreter. -/
def attempts (x : Executor) (files : Files) (input : Bytes) (before : List Request)
    (again : Bool) : List Request → List Request
  | [] => []
  | q :: rest =>
    let launched := x.launcher.run files input before q
    (if again then [] else [q]) ++
      x.attempts launched.files launched.input (before ++ [q])
        (!again && x.retries launched.answer) rest

/-- The requests between two sessions that were made for commands. -/
def attemptsBetween (x : Executor) (s s' : Session) : List Request :=
  x.attempts s.files s.input s.requests false (s'.requests.drop s.requests.length)

/-- On the way from `s` to `s'` just these requests were made for commands. -/
structure Attempted (x : Executor) (s s' : Session) (firsts : List Request) : Prop where
  log : ∃ new, s'.requests = s.requests ++ new ∧ ∀ more,
    x.attempts s.files s.input s.requests false (new ++ more) =
      firsts ++ x.attempts s'.files s'.input s'.requests false more

namespace Attempted

variable {x : Executor} {s s' s'' : Session} {firsts later : List Request}

theorem of_surroundings (h : s'.surroundings = s.surroundings) : x.Attempted s s' [] := by
  have hfiles : s'.files = s.files := congrArg Surroundings.files h
  have hinput : s'.input = s.input := congrArg Surroundings.input h
  have hrequests : s'.requests = s.requests := congrArg Surroundings.requests h
  refine ⟨[], by rw [hrequests, List.append_nil], fun more => ?_⟩
  rw [hfiles, hinput, hrequests]
  rfl

theorem trans (h : x.Attempted s s' firsts) (h' : x.Attempted s' s'' later) :
    x.Attempted s s'' (firsts ++ later) := by
  obtain ⟨new, hnew, hlog⟩ := h.log
  obtain ⟨new', hnew', hlog'⟩ := h'.log
  refine ⟨new ++ new', by rw [hnew', hnew, List.append_assoc], fun more => ?_⟩
  rw [List.append_assoc, hlog, hlog', List.append_assoc]

theorem attemptsBetween_eq (h : x.Attempted s s' firsts) : x.attemptsBetween s s' = firsts := by
  obtain ⟨new, hnew, hlog⟩ := h.log
  have hall := hlog []
  rw [List.append_nil, attempts, List.append_nil] at hall
  rw [attemptsBetween, hnew, List.drop_left, hall]

end Attempted

end Executor

/-! ### Sessions and reports that agree -/

/-- A write or a launch has failed. -/
def CommandError.isOutside : CommandError → Bool
  | .io _ | .notFound _ | .launch _ _ => true
  | _ => false

theorem LaunchError.isOutside_ofLaunch (e : LaunchError) :
    (CommandError.ofLaunch e).isOutside = true := by
  cases e <;> rfl

/-- The failures that are not of writes and launches. -/
def Report.inner (r : Report) : List CommandError := r.errors.filter fun e => !e.isOutside

/-- The launcher leaves the files as they are. -/
def Launcher.LeavesFiles (l : Launcher) : Prop :=
  ∀ files input before q, (l.run files input before q).files = files

/-- Two reports that differ in nothing but failures of writes and launches. -/
structure Report.Alike (r₁ r₂ : Report) : Prop where
  exit : r₁.exit = r₂.exit
  inner : r₁.inner = r₂.inner

namespace Report.Alike

theorem refl (r : Report) : r.Alike r := ⟨rfl, rfl⟩

theorem append {r₁ r₂ q₁ q₂ : Report} (h : r₁.Alike r₂) (h' : q₁.Alike q₂) :
    (r₁.append q₁).Alike (r₂.append q₂) := by
  refine ⟨h'.exit, ?_⟩
  have hinner : ∀ a b : Report, (a.append b).inner = a.inner ++ b.inner := fun a b =>
    List.filter_append a.errors b.errors
  rw [hinner, hinner, h.inner, h'.inner]

/-- Success and a failure of a write or a launch are alike. -/
theorem of_outside {r₁ r₂ : Report} (h₁ : r₁ = .quiet ∨ ∃ e, e.isOutside = true ∧ r₁ = .failure e)
    (h₂ : r₂ = .quiet ∨ ∃ e, e.isOutside = true ∧ r₂ = .failure e) : r₁.Alike r₂ := by
  have hnothing : ∀ r : Report, (r = .quiet ∨ ∃ e, e.isOutside = true ∧ r = .failure e) →
      r.exit = none ∧ r.inner = [] := by
    rintro r (rfl | ⟨e, he, rfl⟩)
    · exact ⟨rfl, rfl⟩
    · exact ⟨rfl, by simp [Report.inner, failure, he]⟩
  obtain ⟨hexit₁, hinner₁⟩ := hnothing r₁ h₁
  obtain ⟨hexit₂, hinner₂⟩ := hnothing r₂ h₂
  exact ⟨hexit₁.trans hexit₂.symm, hinner₁.trans hinner₂.symm⟩

end Report.Alike

/-! ### Every builtin -/

namespace Builtin

/-- Two outcomes of a builtin that agree in all that counts. -/
structure Agree (o₁ o₂ : Outcome) : Prop where
  session : o₁.1.Alike o₂.1
  report : (Report.ofResult o₁.2).Alike (Report.ofResult o₂.2)

variable {s₁ s₂ : Session}

/-- A write leaves alone what counts, and it may fail or not. -/
theorem agree_print (h : s₁.Alike s₂) (t : Text) : Agree (s₁.print t) (s₂.print t) := by
  have hreport : ∀ ok : Bool, Report.ofResult
      (if ok then .ok .proceed else .error (.io Console.fullReason)) = .quiet ∨
        ∃ e, e.isOutside = true ∧ Report.ofResult
          (if ok then .ok .proceed else .error (.io Console.fullReason)) = .failure e := by
    rintro (_ | _)
    · exact Or.inr ⟨_, rfl, rfl⟩
    · exact Or.inl rfl
  rw [Session.print_eq, Session.print_eq]
  exact ⟨⟨h.aliases, h.env, h.cwd, h.home, h.evaluator, h.files⟩,
    .of_outside (hreport _) (hreport _)⟩

theorem agree_perform (h : s₁.Alike s₂) (d : Deed) : Agree (d.perform s₁) (d.perform s₂) := by
  cases d with
  | fail e => exact ⟨h, .refl _⟩
  | exit code => exact ⟨h, .refl _⟩
  | change aliases env cwd => exact ⟨⟨rfl, rfl, rfl, h.home, h.evaluator, h.files⟩, .refl _⟩
  | print aliases t =>
      have hchanged : Session.Alike { s₁ with aliases } { s₂ with aliases } :=
        ⟨rfl, h.env, h.cwd, h.home, h.evaluator, h.files⟩
      exact agree_print hchanged t

/-- **Every builtin goes on as it would with any other output.** -/
theorem agree_of_action? {verb : Text} {action : Action} (ha : action? verb = some action)
    (h : s₁.Alike s₂) (args : List Text) : Agree (action args s₁) (action args s₂) := by
  obtain ⟨d, h₁, h₂⟩ := sameDeed_of_action? ha h.akin args
  rw [h₁, h₂]
  exact agree_perform h d

end Builtin

/-! ### Programs -/

namespace Session.Alike

variable {s₁ s₂ s₃ : Session}

theorem symm (h : s₁.Alike s₂) : s₂.Alike s₁ :=
  ⟨h.aliases.symm, h.env.symm, h.cwd.symm, h.home.symm, h.evaluator.symm, h.files.symm⟩

theorem trans (h : s₁.Alike s₂) (h' : s₂.Alike s₃) : s₁.Alike s₃ :=
  ⟨h.aliases.trans h'.aliases, h.env.trans h'.env, h.cwd.trans h'.cwd, h.home.trans h'.home,
    h.evaluator.trans h'.evaluator, h.files.trans h'.files⟩

end Session.Alike

namespace Executor

theorem request_alike {s₁ s₂ : Session} (h : s₁.Alike s₂) (program : Text) (args : List Text) :
    request s₁ program args = request s₂ program args := by
  rw [request, request, h.home, h.cwd, h.env]

theorem launch_alike {l : Launcher} (hl : l.LeavesFiles) (q : Request) (s : Session) :
    s.Alike (s.launch l q).1 :=
  ⟨rfl, rfl, rfl, rfl, rfl, (hl _ _ _ _).symm⟩

/-- A program leaves alone what counts. -/
theorem spawn_alike (x : Executor) (hl : x.launcher.LeavesFiles) (program : Text)
    (args : List Text) (s : Session) : s.Alike (x.spawn program args s).1 :=
  x.spawn_keeps (P := s.Alike) (fun q t ht => ht.trans (launch_alike hl q t)) program args
    ⟨rfl, rfl, rfl, rfl, rfl, rfl⟩

/-- Where the log of a session goes on with this request. -/
theorem attempts_launch (x : Executor) (s : Session) (again : Bool) (q : Request)
    (more : List Request) :
    x.attempts s.files s.input s.requests again (q :: more) =
      (if again then [] else [q]) ++
        x.attempts (s.launch x.launcher q).1.files (s.launch x.launcher q).1.input
          (s.launch x.launcher q).1.requests
          (!again && x.retries (s.launch x.launcher q).2) more := rfl

/-- Of the requests for a program, the first one is made for the command. -/
theorem spawn_attempted (x : Executor) (program : Text) (args : List Text) (s : Session) :
    x.Attempted s (x.spawn program args s).1 [request s program args] := by
  have hfirst := x.attempts_launch s false (request s program args)
  have hlog : (s.launch x.launcher (request s program args)).1.requests =
      s.requests ++ [request s program args] := rfl
  constructor
  unfold spawn
  simp only
  rcases h₁ : s.launch x.launcher (request s program args) with
    ⟨s₁, (p | ⟨p, reason⟩) | ending⟩ <;> rw [h₁] at hfirst hlog
  · simp only
    cases hfallback : x.fallback with
    | none =>
        refine ⟨_, hlog, fun more => ?_⟩
        rw [List.singleton_append, hfirst, retries_notFound, hfallback]
        rfl
    | some f =>
        have hsecond := x.attempts_launch s₁ true (retry f (request s program args))
        have hlog₂ : (s₁.launch x.launcher (retry f (request s program args))).1.requests =
            s₁.requests ++ [retry f (request s program args)] := rfl
        have hretries : x.retries (.error (.notFound p)) = true := by
          rw [retries_notFound, hfallback]
          rfl
        rw [hlog, List.append_assoc] at hlog₂
        simp only
        -- whatever the interpreter comes to, the log is longer by its request
        rcases h₂ : s₁.launch x.launcher (retry f (request s program args)) with
          ⟨s₂, _ | _⟩ <;> rw [h₂] at hsecond hlog₂
        · refine ⟨_, hlog₂, fun more => ?_⟩
          show x.attempts _ _ _ false (_ :: _ :: more) = _
          rw [hfirst, hretries]
          exact congrArg _ (hsecond more)
        · refine ⟨_, hlog₂, fun more => ?_⟩
          show x.attempts _ _ _ false (_ :: _ :: more) = _
          rw [hfirst, hretries]
          exact congrArg _ (hsecond more)
  · exact ⟨_, hlog, hfirst⟩
  · exact ⟨_, hlog, hfirst⟩

end Executor

/-! ### Lines -/

namespace Dispatch

variable {x₁ x₂ : Executor} {s₁ s₂ t₁ t₂ : Session}

/-- Two runs from `s₁` and `s₂` that have come to these outcomes and agree in all that counts. -/
structure Agree (x₁ x₂ : Executor) (s₁ s₂ : Session) (o₁ o₂ : Report × Session) : Prop where
  session : o₁.2.Alike o₂.2
  report : o₁.1.Alike o₂.1
  attempted : ∃ firsts, x₁.Attempted s₁ o₁.2 firsts ∧ x₂.Attempted s₂ o₂.2 firsts

/-- What agrees on the way from the middle agrees on the whole way. -/
theorem Agree.behind {firsts : List Request} (h₁ : x₁.Attempted s₁ t₁ firsts)
    (h₂ : x₂.Attempted s₂ t₂ firsts) {o₁ o₂ : Report × Session} (h : Agree x₁ x₂ t₁ t₂ o₁ o₂) :
    Agree x₁ x₂ s₁ s₂ o₁ o₂ := by
  obtain ⟨later, hlater₁, hlater₂⟩ := h.attempted
  exact ⟨h.session, h.report, firsts ++ later, h₁.trans hlater₁, h₂.trans hlater₂⟩

theorem route_agree (hl₁ : x₁.launcher.LeavesFiles) (hl₂ : x₂.launcher.LeavesFiles) (c : Command)
    (h : s₁.Alike s₂) : Agree x₁ x₂ s₁ s₂ (route x₁ c s₁) (route x₂ c s₂) := by
  cases ha : Builtin.action? c.verb with
  | some action =>
      have hagree := Builtin.agree_of_action? ha h c.args
      have hc := Builtin.contained_of_action? ha c.args
      rw [route_builtin x₁ ha, route_builtin x₂ ha]
      exact ⟨hagree.session, hagree.report, [], .of_surroundings (hc s₁).surroundings,
        .of_surroundings (hc s₂).surroundings⟩
  | none =>
      obtain ⟨r₁, hroute₁, hr₁⟩ := route_program x₁ ha s₁
      obtain ⟨r₂, hroute₂, hr₂⟩ := route_program x₂ ha s₂
      have hattempted₁ := x₁.spawn_attempted c.verb c.args s₁
      have hattempted₂ := x₂.spawn_attempted c.verb c.args s₂
      rw [Executor.request_alike h] at hattempted₁
      have hsession : (x₁.spawn c.verb c.args s₁).1.Alike (x₂.spawn c.verb c.args s₂).1 :=
        (x₁.spawn_alike hl₁ c.verb c.args s₁).symm.trans
          (h.trans (x₂.spawn_alike hl₂ c.verb c.args s₂))
      rw [hroute₁, hroute₂]
      exact ⟨hsession, .of_outside (hr₁.imp_right fun ⟨e, he⟩ => ⟨_, e.isOutside_ofLaunch, he⟩)
        (hr₂.imp_right fun ⟨e, he⟩ => ⟨_, e.isOutside_ofLaunch, he⟩), _, hattempted₁, hattempted₂⟩

/-- Steps that agree make sequences that agree. -/
theorem sequence_agree {α : Type} {step₁ step₂ : α → Session → Report × Session} :
    ∀ {cs : List α} {s₁ s₂ : Session}, (∀ c ∈ cs, ∀ s₁ s₂ : Session, s₁.Alike s₂ →
      Agree x₁ x₂ s₁ s₂ (step₁ c s₁) (step₂ c s₂)) → s₁.Alike s₂ →
        Agree x₁ x₂ s₁ s₂ (sequence step₁ cs s₁) (sequence step₂ cs s₂) := by
  intro cs
  induction cs with
  | nil => exact fun _ h => ⟨h, .refl _, [], .of_surroundings rfl, .of_surroundings rfl⟩
  | cons c cs ih =>
      intro s₁ s₂ hstep h
      have hc := hstep c List.mem_cons_self s₁ s₂ h
      cases he : (step₁ c s₁).1.exit with
      | none =>
          obtain ⟨firsts, hfirsts₁, hfirsts₂⟩ := hc.attempted
          have hrest := (ih (fun d hd => hstep d (List.mem_cons_of_mem c hd)) hc.session).behind
            hfirsts₁ hfirsts₂
          rw [sequence_cons_next he, sequence_cons_next (hc.report.exit.symm.trans he)]
          exact ⟨hrest.session, hc.report.append hrest.report, hrest.attempted⟩
      | some code =>
          have he₂ : (step₂ c s₂).1.exit = some code := hc.report.exit.symm.trans he
          rw [sequence_cons_exit (by rw [he]; rfl), sequence_cons_exit (by rw [he₂]; rfl)]
          exact hc

/-- A text does the same in sessions that are alike. -/
theorem runText_agree (hl₁ : x₁.launcher.LeavesFiles) (hl₂ : x₂.launcher.LeavesFiles) :
    ∀ (left : Nat) (t : Text) {s₁ s₂ : Session}, s₁.Alike s₂ →
      Agree x₁ x₂ s₁ s₂ (runText x₁ left t s₁) (runText x₂ left t s₂) := by
  intro left
  induction left with
  | zero => exact fun t _ _ h => ⟨h, .refl _, [], .of_surroundings rfl, .of_surroundings rfl⟩
  | succ left ih =>
      intro t s₁ s₂ h
      rw [runText_succ, runText_succ]
      refine sequence_agree (fun c _ s₁ s₂ h => ?_) h
      cases ha : s₁.aliases.get? c.verb with
      | some r =>
          rw [command_alias ha, command_alias (h.aliases ▸ ha)]
          exact ih _ h
      | none =>
          rw [command_route ha, command_route (h.aliases ▸ ha)]
          exact route_agree hl₁ hl₂ c h

/-- Runs lines one after another: what each of them reports, and the session after it. -/
def runEach (x : Executor) : List Text → Session → List (Report × Session)
  | [], _ => []
  | line :: lines, s => run x line s :: runEach x lines (run x line s).2

theorem runEach_agree (hl₁ : x₁.launcher.LeavesFiles) (hl₂ : x₂.launcher.LeavesFiles) :
    ∀ (lines : List Text) {firsts : List Request} {t₁ t₂ : Session},
      x₁.Attempted s₁ t₁ firsts → x₂.Attempted s₂ t₂ firsts → t₁.Alike t₂ →
        List.Forall₂ (Agree x₁ x₂ s₁ s₂) (runEach x₁ lines t₁) (runEach x₂ lines t₂) := by
  intro lines
  induction lines with
  | nil => exact fun _ _ _ => .nil
  | cons line lines ih =>
      intro firsts t₁ t₂ h₁ h₂ h
      have hline := (runText_agree hl₁ hl₂ (aliasLimit + 1) line h).behind h₁ h₂
      obtain ⟨later, hlater₁, hlater₂⟩ := hline.attempted
      exact .cons hline (ih hlater₁ hlater₂ hline.session)

/-- What cannot be told from two runs after a line: where they stand, how the line ended, what was
asked for since the runs began, and which failures there were but those of writes and launches. -/
structure SameCourse (x₁ x₂ : Executor) (s₁ s₂ : Session) (o₁ o₂ : Report × Session) : Prop where
  aliases : o₁.2.aliases = o₂.2.aliases
  env : o₁.2.env = o₂.2.env
  cwd : o₁.2.cwd = o₂.2.cwd
  exit : o₁.1.exit = o₂.1.exit
  attempts : x₁.attemptsBetween s₁ o₁.2 = x₂.attemptsBetween s₂ o₂.2
  errors : (o₁.1.errors.filter fun e => !e.isOutside) = o₂.1.errors.filter fun e => !e.isOutside

/-- **Neither the output nor the answers to requests steer the shell.**  Lines run in two sessions
that agree in aliases, variables, directory, home, evaluator and files, whatever their output takes,
and with launchers that leave the files alone, whatever they answer and whatever interpreters stand
behind them.  Then the two runs take the same course. -/
theorem runEach_sameCourse (hl₁ : x₁.launcher.LeavesFiles) (hl₂ : x₂.launcher.LeavesFiles)
    (h : s₁.Alike s₂) (lines : List Text) :
    List.Forall₂ (SameCourse x₁ x₂ s₁ s₂) (runEach x₁ lines s₁) (runEach x₂ lines s₂) := by
  have hagree := runEach_agree hl₁ hl₂ lines (.of_surroundings rfl) (.of_surroundings rfl) h
  refine hagree.imp fun o₁ o₂ ho => ?_
  obtain ⟨firsts, hfirsts₁, hfirsts₂⟩ := ho.attempted
  exact ⟨ho.session.aliases, ho.session.env, ho.session.cwd, ho.report.exit,
    hfirsts₁.attemptsBetween_eq.trans hfirsts₂.attemptsBetween_eq.symm, ho.report.inner⟩

/-- One run has room for three bytes, no program `run`, and an interpreter to ask instead; the other
has room for everything, and its `run` is killed.  Their failures differ, and so do their requests,
but not those made for commands. -/
theorem runEach_sameCourse_full_channel :
    let x₁ : Executor := ⟨Scripted.launcher ⟨["run"], [], [], []⟩, some ⟨"sh", "-c"⟩⟩
    let x₂ : Executor := ⟨Scripted.launcher ⟨[], [], [], [("run", .killed 9)]⟩, none⟩
    let s₁ : Session := { Session.fresh "/" with console := .limited 3 }
    let s₂ : Session := Session.fresh "/"
    let lines : List Text := ["alias add g=run x", "g; print one; cd /no; exit 4; print two"]
    (x₁.launcher.LeavesFiles ∧ x₂.launcher.LeavesFiles ∧ s₁.Alike s₂) ∧
      List.Forall₂ (SameCourse x₁ x₂ s₁ s₂) (runEach x₁ lines s₁) (runEach x₂ lines s₂) ∧
      (runEach x₁ lines s₁).map (·.1.errors.length) = [1, 2] ∧
      (runEach x₂ lines s₂).map (·.1.errors.length) = [0, 1] ∧
      (runEach x₁ lines s₁).map (fun o => (x₁.attemptsBetween s₁ o.2).length) = [0, 1] ∧
      (runEach x₁ lines s₁).map (·.2.requests.length) = [0, 2] := by
  intro x₁ x₂ s₁ s₂ lines
  have hl₁ : x₁.launcher.LeavesFiles := fun _ _ _ _ => rfl
  have hl₂ : x₂.launcher.LeavesFiles := fun _ _ _ _ => rfl
  have halike : s₁.Alike s₂ := ⟨rfl, rfl, rfl, rfl, rfl, rfl⟩
  exact ⟨⟨hl₁, hl₂, halike⟩, runEach_sameCourse hl₁ hl₂ halike lines, by decide +kernel,
    by decide +kernel, by decide +kernel, by decide +kernel⟩

end Dispatch

end AliasShell
