/-
The same run behind something that was written before, and from another place.

Two sessions agree in everything but their output: in one of them the shell has
already written something that is missing from the other.  Prompts may have been shown
there, too, and complaints of programs may have been passed on; neither counts.  And
the process of the one may stand elsewhere than that of the other, among files that are
not quite the same.

Nothing that is run can see what was written.  Nor can it see where the process stands,
as long as the directory of the session is absolute, since all paths hang on that, and
programs start in it.  What else is different in files has to be overlooked turn by turn:
`Turn.Overlooks` says that a command does the same there.  So the two runs stay together,
command by command.

There is one difference they can come to.  Where the channel takes only so much, what
was written before is room that is missing now, and a write may fail in one run that
succeeds in the other.  Even then the runs ask for the same programs and leave the same
things behind.  And as long as the shorter output leaves room for what it lacks, the
outputs are the same but for that, and so are the failures.
-/
import AliasShell.Proofs.Console
import AliasShell.Proofs.Deeds
import AliasShell.Proofs.Dispatch.Directory

namespace AliasShell

/-! ### Sessions -/

/-- Wherever the process stands, the same is found at an absolute path. -/
theorem Files.sameAt_standingAt {p : Text} (hp : Path.isAbsolute p = true) (fs : Files)
    (place : Location) : Files.SameAt p fs (fs.standingAt place) where
  canonical := (canonical_standingAt fs place hp).symm
  isDir := (isDir_standingAt fs place hp).symm
  readDir := (readDir_standingAt fs place hp).symm

namespace Session

/-- The sessions agree in all but their output, what programs have complained of, where their
processes stand, which nothing else hangs on, and what may be different in files by `R`. -/
structure Twin (R : Files → Files → Prop) (s t : Session) : Prop where
  aliases : s.aliases = t.aliases
  env : s.env = t.env
  cwd : s.cwd = t.cwd
  home : s.home = t.home
  evaluator : s.evaluator = t.evaluator
  input : s.input = t.input
  requests : s.requests = t.requests
  files : ∃ fs place, R s.files fs ∧ t.files = fs.standingAt place
  absolute : Path.isAbsolute t.cwd = true

/-- The sessions agree but for `extra`, which stands in the output of the second one, and for the
complaints `passed` on there; the outputs are compared while there is room for `extra`. -/
structure Shifted (R : Files → Files → Prop) (before : List (Origin × Bytes)) (extra : List Bytes)
    (passed : Bytes) (s t : Session) : Prop extends s.Twin R t where
  complaints : s.complaints = passed ++ t.complaints
  console : s.console.HasRoom extra.flatten.length → s.console.Shifted before extra t.console

variable {R : Files → Files → Prop} {before : List (Origin × Bytes)} {extra : List Bytes}
variable {passed : Bytes} {s t : Session} {fs : Files}

theorem Twin.akin (h : s.Twin Eq t) : s.Akin t := by
  obtain ⟨fs, place, rfl, hfiles⟩ := h.files
  have hsame : ∀ {p}, Path.isAbsolute p = true → Files.SameAt p s.files t.files := fun hp => by
    rw [hfiles]
    exact Files.sameAt_standingAt hp s.files place
  exact ⟨h.aliases, h.env, h.cwd, h.home, h.evaluator,
    fun hp => hsame (isAbsolute_resolve h.absolute hp), hsame⟩

/-- The session would agree but for the place if it had other files. -/
theorem Shifted.exists_files (h : s.Shifted R before extra passed t) :
    ∃ fs, R s.files fs ∧ { s with files := fs }.Shifted Eq before extra passed t := by
  obtain ⟨fs, place, hfs, hplace⟩ := h.files
  exact ⟨fs, hfs, ⟨h.aliases, h.env, h.cwd, h.home, h.evaluator, h.input, h.requests,
    ⟨fs, place, rfl, hplace⟩, h.absolute⟩, h.complaints, h.console⟩

theorem Shifted.of_files (h : { s with files := fs }.Shifted Eq before extra passed t)
    (hfs : R s.files fs) : s.Shifted R before extra passed t := by
  obtain ⟨_, place, rfl, hplace⟩ := h.files
  exact ⟨⟨h.aliases, h.env, h.cwd, h.home, h.evaluator, h.input, h.requests,
    ⟨fs, place, hfs, hplace⟩, h.absolute⟩, h.complaints, h.console⟩

/-- A request is answered alike. -/
theorem Shifted.launch (h : s.Shifted Eq before extra passed t) {l : Launcher}
    (hl : l.IgnoresPlace) {q : Request} (hq : Path.isAbsolute q.cwd = true) :
    (s.launch l q).1.Shifted Eq before extra passed (t.launch l q).1 ∧
      (s.launch l q).2 = (t.launch l q).2 := by
  obtain ⟨_, place, rfl, hplace⟩ := h.files
  have hsame := hl s.files place s.input s.requests q hq
  unfold Session.launch
  rw [hplace, ← h.input, ← h.requests]
  generalize l.run s.files s.input s.requests q = a at hsame ⊢
  generalize l.run (s.files.standingAt place) s.input s.requests q = b at hsame ⊢
  have hanswer : b.answer = a.answer := (congrArg Launched.answer hsame :)
  have hinput : b.input = a.input := (congrArg Launched.input hsame :)
  have houtput : b.output = a.output := (congrArg Launched.output hsame :)
  have herrors : b.errors = a.errors := (congrArg Launched.errors hsame :)
  have hfiles : b.files = a.files.standingAt b.files.current :=
    (congrArg (fun x : Launched => x.files.standingAt b.files.current) hsame :)
  simp only
  rw [hanswer, hinput, houtput, herrors]
  refine ⟨⟨⟨h.aliases, h.env, h.cwd, h.home, h.evaluator, rfl, rfl,
    ⟨a.files, _, rfl, hfiles⟩, h.absolute⟩, ?_, ?_⟩, rfl⟩
  · exact (congrArg (· ++ _) h.complaints).trans (List.append_assoc _ _ _)
  · exact fun hroom => (h.console hroom).childWrote _

end Session

theorem Executor.spawn_shifted {before : List (Origin × Bytes)} {extra : List Bytes}
    {passed : Bytes} {s t : Session} (h : s.Shifted Eq before extra passed t) {x : Executor}
    (hx : x.launcher.IgnoresPlace) (program : Text) (args : List Text) :
    (x.spawn program args s).1.Shifted Eq before extra passed (x.spawn program args t).1 ∧
      (x.spawn program args s).2 = (x.spawn program args t).2 := by
  have hrequest : request s program args = request t program args := by
    rw [request, request, h.home, h.cwd, h.env]
  have hfirst := h.launch hx (q := request t program args) h.absolute
  unfold spawn
  simp only
  rw [hrequest]
  rcases hs : s.launch x.launcher (request t program args) with ⟨s₁, (p | ⟨p, reason⟩) | ending⟩ <;>
    rcases ht : t.launch x.launcher (request t program args) with ⟨t₁, answer⟩ <;>
    rw [hs, ht] at hfirst <;> obtain ⟨hnext, rfl⟩ := hfirst
  · simp only
    cases x.fallback with
    | none => exact ⟨hnext, rfl⟩
    | some f =>
        have hsecond := hnext.launch hx (q := retry f (request t program args)) h.absolute
        simp only
        rcases hs₂ : s₁.launch x.launcher (retry f (request t program args)) with
          ⟨s₂, _ | _⟩ <;>
          rcases ht₂ : t₁.launch x.launcher (retry f (request t program args)) with
            ⟨t₂, answer⟩ <;>
          rw [hs₂, ht₂] at hsecond <;> obtain ⟨hlast, rfl⟩ := hsecond
        · exact ⟨hlast, rfl⟩
        · exact ⟨hlast, rfl⟩
  · exact ⟨hnext, rfl⟩
  · exact ⟨hnext, rfl⟩

/-! ### Runs -/

namespace Dispatch

/-- In all other files that `R` allows the command does the same, and it leaves such files. -/
def Turn.Overlooks (R : Files → Files → Prop) (x : Executor) (t : Turn) : Prop :=
  ∀ fs, R t.session.files fs → ∃ fs', R (t.left x).files fs' ∧
    (Turn.mk t.command { t.session with files := fs }).outcome x =
      ((t.outcome x).1, { t.left x with files := fs' })

variable {R : Files → Files → Prop} {before : List (Origin × Bytes)} {extra : List Bytes}
variable {passed : Bytes} {s t : Session}

/-- A builtin that does the same deed in other files overlooks what is different. -/
theorem Turn.overlooks_of_sameDeed {x : Executor} {c : Command} {action : Action}
    (ha : Builtin.action? c.verb = some action)
    (h : ∀ fs, R s.files fs →
      Builtin.SameDeed s { s with files := fs } (action c.args s)
        (action c.args { s with files := fs })) :
    (Turn.mk c s).Overlooks R x := by
  intro fs hfs
  obtain ⟨d, hs, ht⟩ := h fs hfs
  obtain ⟨hfiles, hperform⟩ := d.perform_files s fs
  refine ⟨fs, ?_, ?_⟩
  · rw [left, outcome, route_builtin x ha, hs, hfiles]
    exact hfs
  · rw [left, outcome, outcome, route_builtin x ha, route_builtin x ha, hs, ht, hperform]

/-- Two runs, the first one from `s`, that have come to these outcomes and agree but for `extra`. -/
structure Shifted (R : Files → Files → Prop) (before : List (Origin × Bytes)) (extra : List Bytes)
    (passed : Bytes) (s : Session) (o p : Report × Session) : Prop where
  session : o.2.Shifted R before extra passed p.2
  exit : o.1.exit = p.1.exit
  room : o.2.console.HasRoom extra.flatten.length → s.console.HasRoom extra.flatten.length
  errors : o.2.console.HasRoom extra.flatten.length → o.1.errors = p.1.errors

theorem perform_shifted (h : s.Shifted Eq before extra passed t) (d : Builtin.Deed)
    (habsolute : Path.isAbsolute (d.perform t).1.cwd = true) :
    Shifted Eq before extra passed s (.ofResult (d.perform s).2, (d.perform s).1)
      (.ofResult (d.perform t).2, (d.perform t).1) := by
  cases d with
  | fail e => exact ⟨h, rfl, id, fun _ => rfl⟩
  | exit code => exact ⟨h, rfl, id, fun _ => rfl⟩
  | change aliases env cwd =>
      have htwin : Session.Twin Eq { s with aliases, env, cwd } { t with aliases, env, cwd } :=
        { h.toTwin with aliases := rfl, env := rfl, cwd := rfl, absolute := habsolute }
      exact ⟨⟨htwin, h.complaints, h.console⟩, rfl, id, fun _ => rfl⟩
  | print aliases text =>
      have hexit : ∀ ok : Bool, (Report.ofResult
          (if ok then .ok .proceed else .error (.io Console.fullReason))).exit = none := by
        rintro (_ | _)
        · rfl
        · rfl
      rw [Builtin.Deed.perform, Builtin.Deed.perform, Session.print_eq, Session.print_eq]
      refine ⟨⟨{ h.toTwin with aliases := rfl }, h.complaints, fun hroom => ?_⟩, ?_, .of_write,
        fun hroom => ?_⟩
      · exact ((h.console hroom.of_write).write hroom).2
      · exact (hexit _).trans (hexit _).symm
      · have hok := ((h.console hroom.of_write).write hroom).1
        exact congrArg (fun ok : Bool => (Report.ofResult
          (if ok then .ok .proceed else .error (.io Console.fullReason))).errors) hok

theorem route_shifted_eq (h : s.Shifted Eq before extra passed t) {x : Executor}
    (hx : x.launcher.IgnoresPlace) (c : Command) :
    Shifted Eq before extra passed s (route x c s) (route x c t) := by
  cases ha : Builtin.action? c.verb with
  | some action =>
      have habsolute := isAbsolute_route x c h.absolute
      obtain ⟨d, hs, ht⟩ := Builtin.sameDeed_of_action? ha h.akin c.args
      rw [route_builtin x ha, ht] at habsolute
      rw [route_builtin x ha, route_builtin x ha, hs, ht]
      exact perform_shifted h d habsolute
  | none =>
      have hkeeps : (x.spawn c.verb c.args s).1.console.room = s.console.room :=
        x.spawn_keeps (P := fun s' => s'.console.room = s.console.room) (fun _ _ hs' => hs')
          c.verb c.args rfl
      have hspawn := Executor.spawn_shifted h hx c.verb c.args
      have hroom : (x.spawn c.verb c.args s).1.console.HasRoom extra.flatten.length →
          s.console.HasRoom extra.flatten.length := fun hr m hm => hr m (hkeeps ▸ hm)
      unfold route
      rw [ha]
      simp only
      rcases hs : x.spawn c.verb c.args s with ⟨s', result⟩
      rcases ht : x.spawn c.verb c.args t with ⟨t', result'⟩
      rw [hs, ht] at hspawn
      rw [hs] at hroom
      obtain ⟨hnext, rfl⟩ := hspawn
      cases result with
      | ok _ => exact ⟨hnext, rfl, hroom, fun _ => rfl⟩
      | error e => exact ⟨hnext, rfl, hroom, fun _ => rfl⟩

/-- Steps that stay together make sequences that stay together, where each step is made of turns
that overlook what is different. -/
theorem sequence_shifted {α : Type} {x : Executor} {step : α → Session → Report × Session}
    {part : α → Session → List Command}
    (hreplay : ∀ c s, sequence (route x) (part c s) s =
      ((step c s).1.withoutLimits, (step c s).2))
    (hstep : ∀ (c : α) {s t : Session}, (∀ u ∈ turns x (part c s) s, u.Overlooks R x) →
      s.Shifted R before extra passed t → Shifted R before extra passed s (step c s) (step c t)) :
    ∀ (cs : List α) {s t : Session},
      (∀ u ∈ turns x (collect step part cs s) s, u.Overlooks R x) →
      s.Shifted R before extra passed t →
        Shifted R before extra passed s (sequence step cs s) (sequence step cs t) := by
  intro cs
  induction cs with
  | nil => exact fun _ h => ⟨h, rfl, id, fun _ => rfl⟩
  | cons c cs ih =>
      intro s t hseen h
      obtain ⟨hfirst, hlater⟩ := forall_turns_collect_cons (hreplay c s) hseen
      have hc := hstep c hfirst h
      cases he : (step c s).1.exit with
      | none =>
          have hrest := ih (hlater he) hc.session
          rw [sequence_cons_next he, sequence_cons_next (hc.exit.symm.trans he)]
          refine ⟨hrest.session, hrest.exit, fun hroom => hc.room (hrest.room hroom),
            fun hroom => ?_⟩
          show (step c s).1.errors ++ _ = (step c t).1.errors ++ _
          rw [hc.errors (hrest.room hroom), hrest.errors hroom]
      | some code =>
          have he' : (step c t).1.exit = some code := hc.exit.symm.trans he
          rw [sequence_cons_exit (by rw [he]; rfl), sequence_cons_exit (by rw [he']; rfl)]
          exact hc

section

variable {x : Executor} (hx : x.launcher.IgnoresPlace)

include hx

/-- A command that overlooks what is different does the same. -/
theorem route_shifted {c : Command} (h : s.Shifted R before extra passed t)
    (hseen : (Turn.mk c s).Overlooks R x) :
    Shifted R before extra passed s (route x c s) (route x c t) := by
  obtain ⟨fs, hfs, hplace⟩ := h.exists_files
  obtain ⟨fs', hfs', houtcome⟩ := hseen fs hfs
  have hboth := route_shifted_eq hplace hx c
  have hroute : route x c { s with files := fs } =
      ((route x c s).1, { (route x c s).2 with files := fs' }) := houtcome
  rw [hroute] at hboth
  exact ⟨hboth.session.of_files hfs', hboth.exit, hboth.room, hboth.errors⟩

theorem runText_shifted : ∀ (left : Nat) (text : Text) {s t : Session},
    (∀ u ∈ turns x (routed x left text s) s, u.Overlooks R x) →
    s.Shifted R before extra passed t →
      Shifted R before extra passed s (runText x left text s) (runText x left text t) := by
  intro left
  induction left with
  | zero => exact fun text _ _ _ h => ⟨h, rfl, id, fun _ => rfl⟩
  | succ left ih =>
      intro text s t hseen h
      rw [runText_succ, runText_succ]
      refine sequence_shifted (replay_command (replay x left)) (fun c s t hseen h => ?_) _ hseen h
      cases ha : s.aliases.get? c.verb with
      | some r =>
          rw [commandRouted_alias ha] at hseen
          rw [command_alias ha, command_alias (h.aliases ▸ ha)]
          exact ih _ hseen h
      | none =>
          rw [commandRouted_route ha] at hseen
          rw [command_route ha, command_route (h.aliases ▸ ha)]
          exact route_shifted hx h (hseen _ List.mem_cons_self)

/-- **A line does the same behind something written before, and from another place**, if its turns
overlook what else is different. -/
theorem run_shifted (line : Text) (hseen : ∀ u ∈ turns x (routedBy x line s) s, u.Overlooks R x)
    (h : s.Shifted R before extra passed t) :
    Shifted R before extra passed s (run x line s) (run x line t) :=
  runText_shifted hx (aliasLimit + 1) line hseen h

end

end Dispatch

end AliasShell
