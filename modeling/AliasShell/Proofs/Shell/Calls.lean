/-
What a shell reports over many calls, and what that leaves alone.

Two shells that differ only in whether and where they report are `Alike`, and every call
keeps them so: reporting is the last thing that happens to a failure, and nothing looks at
what became of it.

What the one sink gets is followed by `Told`: it has been written so many times, once for
every failure and in order, with the complaints of programs in between, or not at all if
nothing is to be said.  A call is told when its parts are told one after another, so all
that is needed is one lemma for each function, and `Told.trans`.
-/
import AliasShell.Proofs.Console
import AliasShell.Shell.Basic
import Mathlib.Data.List.Forall2

namespace AliasShell

/-! ### What goes into a sink -/

namespace Sink

/-- Something that comes into a sink. -/
inductive Event where
  | report (line : Bytes)
  | complaint (bytes : Bytes)
  deriving Repr, DecidableEq

/-- The line of a report. -/
def Event.line? : Event → Option Bytes
  | .report line => some line
  | .complaint _ => none

/-- The lines of the reports, in order. -/
def reports (events : List Event) : List Bytes := events.filterMap Event.line?

variable {κ : Type} [Sink κ]

/-- The sink after one event. -/
def take (e : κ) : Event → κ
  | .report line => reported e line
  | .complaint bytes => complained e bytes

/-- The sink after events. -/
def feed (e : κ) (events : List Event) : κ := events.foldl take e

theorem feed_append (e : κ) (as bs : List Event) : feed e (as ++ bs) = feed (feed e as) bs :=
  List.foldl_append

end Sink

namespace Shell

variable {σ κ κ' κ'' : Type}

/-! ### What a call comes to -/

section

variable [Sink κ] {sh : Shell σ κ} {session : Session} {path line : Text}

theorem ensurePrompt_of_ok (h : Prompt.ensure sh.session = (.ok (), session)) :
    sh.ensurePrompt = { sh with session } := by
  rw [ensurePrompt, h]

theorem ensurePrompt_of_error {e : StartupError}
    (h : Prompt.ensure sh.session = (.error e, session)) :
    sh.ensurePrompt = { sh with session }.report e.message := by
  rw [ensurePrompt, h]

theorem loadConfig_of_none (h : sh.locations.startup = none) :
    sh.loadConfig = sh.ensurePrompt := by
  rw [loadConfig, h]

theorem loadConfig_of_sourced {r : SourceReport} (h : sh.locations.startup = some path)
    (hrun : Startup.source sh.executor path sh.session = (.ok r, session)) :
    sh.loadConfig =
      { sh with session }.passComplaints.reportAll (r.errors.map (startupMessage path)) := by
  rw [loadConfig, h]
  simp only [hrun]
  rfl

theorem loadConfig_of_unread {e : StartupError} (h : sh.locations.startup = some path)
    (hrun : Startup.source sh.executor path sh.session = (.error e, session)) :
    sh.loadConfig =
      ({ sh with session }.passComplaints.reportAll
        (startupMessages sh.locations path (.error e))).ensurePrompt := by
  rw [loadConfig, h]
  simp only [hrun]

theorem dispatch_of_run {r : Report} (h : Dispatch.run sh.executor line sh.session = (r, session)) :
    sh.dispatch line =
      (r.exit, { sh with session }.passComplaints.reportAll
        (r.errors.map CommandError.message)) := by
  rw [dispatch, h]

theorem handleLine_of_none (h : sh.hook = none) : sh.handleLine line = sh.dispatch line := by
  rw [handleLine, h]

variable {hook hook' : Hook σ}

theorem handleLine_of_handled (h : sh.hook = some hook)
    (hask : hook.input line sh.session = (.ok true, hook', session)) :
    sh.handleLine line = (none, { sh with session, hook := some hook' }) := by
  rw [handleLine, h]
  simp only [hask]

theorem handleLine_of_left (h : sh.hook = some hook)
    (hask : hook.input line sh.session = (.ok false, hook', session)) :
    sh.handleLine line = { sh with session, hook := some hook' }.dispatch line := by
  rw [handleLine, h]
  simp only [hask]

theorem handleLine_of_failed {reason : Text} (h : sh.hook = some hook)
    (hask : hook.input line sh.session = (.error reason, hook', session)) :
    sh.handleLine line =
      ({ sh with session, hook := some hook' }.report (Hook.failure reason)).dispatch line := by
  rw [handleLine, h]
  simp only [hask]

end

/-! ### Two shells -/

/-- The two shells differ at most in whether and where they report. -/
structure Alike (a : Shell σ κ) (b : Shell σ κ') : Prop where
  session : b.session = a.session
  executor : b.executor = a.executor
  locations : b.locations = a.locations
  hook : b.hook = a.hook
  highlighter : b.highlighter = a.highlighter

/-- The two calls give the same value, and shells that are alike. -/
structure Agree (a : Option Int × Shell σ κ) (b : Option Int × Shell σ κ') : Prop where
  value : b.1 = a.1
  alike : Alike a.2 b.2

namespace Alike

variable {a : Shell σ κ} {b : Shell σ κ'} {c : Shell σ κ''}

theorem refl (a : Shell σ κ) : Alike a a := ⟨rfl, rfl, rfl, rfl, rfl⟩

theorem symm (h : Alike a b) : Alike b a :=
  ⟨h.session.symm, h.executor.symm, h.locations.symm, h.hook.symm, h.highlighter.symm⟩

theorem trans (h : Alike a b) (h' : Alike b c) : Alike a c :=
  ⟨h'.session.trans h.session, h'.executor.trans h.executor, h'.locations.trans h.locations,
    h'.hook.trans h.hook, h'.highlighter.trans h.highlighter⟩

theorem withSession (h : Alike a b) (session : Session) :
    Alike { a with session } { b with session } := { h with session := rfl }

variable [Sink κ] [Sink κ']

theorem of_report (a : Shell σ κ) (m : Text) : Alike a (a.report m) := by
  unfold report
  split
  · exact .refl a
  · exact ⟨rfl, rfl, rfl, rfl, rfl⟩

theorem of_reportAll (a : Shell σ κ) (ms : List Text) : Alike a (a.reportAll ms) := by
  induction ms generalizing a with
  | nil => exact .refl a
  | cons m ms ih => exact (of_report a m).trans (ih (a.report m))

theorem report (h : Alike a b) (m : Text) : Alike (a.report m) (b.report m) :=
  ((of_report a m).symm.trans h).trans (of_report b m)

theorem reportAll (h : Alike a b) (ms : List Text) : Alike (a.reportAll ms) (b.reportAll ms) :=
  ((of_reportAll a ms).symm.trans h).trans (of_reportAll b ms)

theorem passComplaints (h : Alike a b) : Alike a.passComplaints b.passComplaints :=
  { h with session := congrArg (fun s : Session => { s with complaints := [] }) h.session }

theorem ensurePrompt (h : Alike a b) : Alike a.ensurePrompt b.ensurePrompt := by
  rcases hset : Prompt.ensure a.session with ⟨result, session⟩
  have hset' : Prompt.ensure b.session = (result, session) := by rw [h.session, hset]
  cases result with
  | ok _ =>
      rw [ensurePrompt_of_ok hset, ensurePrompt_of_ok hset']
      exact h.withSession session
  | error e =>
      rw [ensurePrompt_of_error hset, ensurePrompt_of_error hset']
      exact (h.withSession session).report e.message

theorem loadConfig (h : Alike a b) : Alike a.loadConfig b.loadConfig := by
  cases hfile : a.locations.startup with
  | none =>
      have hfile' : b.locations.startup = none := by rw [h.locations, hfile]
      rw [loadConfig_of_none hfile, loadConfig_of_none hfile']
      exact h.ensurePrompt
  | some path =>
      have hfile' : b.locations.startup = some path := by rw [h.locations, hfile]
      rcases hrun : Startup.source a.executor path a.session with ⟨result, session⟩
      have hrun' : Startup.source b.executor path b.session = (result, session) := by
        rw [h.executor, h.session, hrun]
      have hpassed := (h.withSession session).passComplaints
      cases result with
      | ok r =>
          rw [loadConfig_of_sourced hfile hrun, loadConfig_of_sourced hfile' hrun']
          exact hpassed.reportAll _
      | error e =>
          have hmessages : startupMessages b.locations path (.error e) =
              startupMessages a.locations path (.error e) := by rw [h.locations]
          rw [loadConfig_of_unread hfile hrun, loadConfig_of_unread hfile' hrun', hmessages]
          exact (hpassed.reportAll _).ensurePrompt

theorem dispatch (h : Alike a b) (line : Text) : Agree (a.dispatch line) (b.dispatch line) := by
  rcases hrun : Dispatch.run a.executor line a.session with ⟨r, session⟩
  have hrun' : Dispatch.run b.executor line b.session = (r, session) := by
    rw [h.executor, h.session, hrun]
  rw [dispatch_of_run hrun, dispatch_of_run hrun']
  exact ⟨rfl, (h.withSession session).passComplaints.reportAll _⟩

theorem handleLine (h : Alike a b) (line : Text) :
    Agree (a.handleLine line) (b.handleLine line) := by
  cases hhook : a.hook with
  | none =>
      have hhook' : b.hook = none := by rw [h.hook, hhook]
      rw [handleLine_of_none hhook, handleLine_of_none hhook']
      exact h.dispatch line
  | some hook =>
      have hhook' : b.hook = some hook := by rw [h.hook, hhook]
      rcases hask : hook.input line a.session with ⟨answer, hook', session⟩
      have hask' : hook.input line b.session = (answer, hook', session) := by rw [h.session, hask]
      have hasked : Alike { a with session, hook := some hook' }
          { b with session, hook := some hook' } := { h with session := rfl, hook := rfl }
      match answer with
      | .ok true =>
          rw [handleLine_of_handled hhook hask, handleLine_of_handled hhook' hask']
          exact ⟨rfl, hasked⟩
      | .ok false =>
          rw [handleLine_of_left hhook hask, handleLine_of_left hhook' hask']
          exact hasked.dispatch line
      | .error reason =>
          rw [handleLine_of_failed hhook hask, handleLine_of_failed hhook' hask']
          exact (hasked.report _).dispatch line

end Alike

/-! ### What there is to report -/

/-- A failure that a shell reports. -/
inductive Failure where
  /-- of a line in the startup file -/
  | startupLine (path : Text) (line : Nat) (error : CommandError)
  /-- of the startup file itself -/
  | startupFile (error : StartupError)
  /-- of the standard prompt -/
  | prompt (error : StartupError)
  | hook (reason : Text)
  /-- of a command on a line -/
  | command (error : CommandError)
  deriving Repr, DecidableEq

/-- The wording of a report. -/
def Failure.message : Failure → Text
  | .startupLine path line error => path ++ ':' :: Integer.digits line ++ ": " ++ error.message
  | .startupFile error => error.message
  | .prompt error => error.message
  | .hook reason => "input hook failed: " ++ reason
  | .command error => error.message

/-- The failure, if there is one, to install the standard prompt. -/
def promptFailures (s : Session) : List Failure :=
  match (Prompt.ensure s).1 with
  | .ok () => []
  | .error e => [.prompt e]

theorem promptFailures_complaints (s : Session) (complaints : Bytes) :
    promptFailures { s with complaints } = promptFailures s := by
  unfold promptFailures Prompt.ensure
  cases s.env.get? Prompt.holder with
  | some prompt => rfl
  | none =>
      cases s.env.set Prompt.holder Prompt.standard with
      | ok env => rfl
      | error e => rfl

/-- The failure of a startup file that cannot be run; one that nobody asked for may be missing. -/
def fileFailures (explicit : Bool) : StartupError → List Failure
  | .notFound path => if explicit then [.startupFile (.notFound path)] else []
  | e => [.startupFile e]

theorem startupMessages_error (l : Locations) (path : Text) (e : StartupError) :
    startupMessages l path (.error e) = (fileFailures l.explicit e).map Failure.message := by
  cases e with
  | notFound missing =>
      show (if l.explicit then _ else []) = List.map _ (if l.explicit then _ else [])
      split
      · rfl
      · rfl
  | unreadable unread reason => rfl
  | env cause => rfl

/-- The failures of the commands on a line. -/
def commandFailures (x : Executor) (line : Text) (s : Session) : List Failure :=
  (Dispatch.run x line s).1.errors.map .command

/-- Something that is asked of a shell. -/
inductive Call where
  | loadConfig
  | line (text : Text)
  deriving Repr, DecidableEq

/-- The failures in a call. -/
def failuresOf (sh : Shell σ κ) : Call → List Failure
  | .loadConfig =>
    match sh.locations.startup with
    | none => promptFailures sh.session
    | some path =>
      match Startup.source sh.executor path sh.session with
      | (.ok report, _) => report.errors.map fun failure => .startupLine path failure.1 failure.2
      | (.error e, s) => fileFailures sh.locations.explicit e ++ promptFailures s
  | .line text =>
    match sh.hook with
    | none => commandFailures sh.executor text sh.session
    | some h =>
      match h.input text sh.session with
      | (.ok true, _, _) => []
      | (.ok false, _, s) => commandFailures sh.executor text s
      | (.error reason, _, s) => .hook reason :: commandFailures sh.executor text s

theorem Alike.failuresOf {a : Shell σ κ} {b : Shell σ κ'} (h : Alike a b) (call : Call) :
    b.failuresOf call = a.failuresOf call := by
  cases call with
  | loadConfig => simp only [Shell.failuresOf, h.locations, h.session, h.executor]
  | line text => simp only [Shell.failuresOf, h.hook, h.session, h.executor]

/-! ### What is reported -/

section

variable [Sink κ]

/-- From one shell to the other the sink has got these reports, in order, and complaints; or
complaints only, if nothing is to be said. -/
structure Told (a b : Shell σ κ) (failures : List Failure) : Prop where
  quiet : b.quiet = a.quiet
  highlighter : b.highlighter = a.highlighter
  sink : ∃ events, b.errors = Sink.feed a.errors events ∧
    Sink.reports events =
      if a.quiet then [] else failures.map fun f => (a.reportText f.message).encode

namespace Told

variable {a b c : Shell σ κ} {fs gs : List Failure}

theorem of_silent (hquiet : b.quiet = a.quiet) (hhighlighter : b.highlighter = a.highlighter)
    (herrors : b.errors = a.errors) : Told a b [] := by
  refine ⟨hquiet, hhighlighter, [], herrors, ?_⟩
  split
  · rfl
  · rfl

theorem refl (a : Shell σ κ) : Told a a [] := of_silent rfl rfl rfl

/-- What is told first comes first. -/
theorem trans (h : Told a b fs) (h' : Told b c gs) : Told a c (fs ++ gs) := by
  obtain ⟨events, herrors, hreports⟩ := h.sink
  obtain ⟨events', herrors', hreports'⟩ := h'.sink
  refine ⟨h'.quiet.trans h.quiet, h'.highlighter.trans h.highlighter, events ++ events', ?_, ?_⟩
  · rw [herrors', herrors, Sink.feed_append]
  · rw [Sink.reports, List.filterMap_append, ← Sink.reports, ← Sink.reports, hreports, hreports',
      h.quiet]
    simp only [reportText, h.highlighter]
    split
    · rfl
    · rw [List.map_append]

theorem of_report (a : Shell σ κ) (f : Failure) : Told a (a.report f.message) [f] := by
  unfold Shell.report
  split
  · next hq => exact ⟨rfl, rfl, [], rfl, (if_pos hq).symm⟩
  · next hq => exact ⟨rfl, rfl, [.report _], rfl, (if_neg hq).symm⟩

theorem of_reportAll (a : Shell σ κ) (fs : List Failure) :
    Told a (a.reportAll (fs.map Failure.message)) fs := by
  induction fs generalizing a with
  | nil => exact .refl a
  | cons f fs ih => exact (of_report a f).trans (ih (a.report f.message))

theorem of_passComplaints (a : Shell σ κ) : Told a a.passComplaints [] := by
  refine ⟨rfl, rfl, [.complaint a.session.complaints], rfl, ?_⟩
  split
  · rfl
  · rfl

theorem of_ensurePrompt (a : Shell σ κ) : Told a a.ensurePrompt (promptFailures a.session) := by
  rcases hset : Prompt.ensure a.session with ⟨result, session⟩
  rw [promptFailures, hset]
  cases result with
  | ok _ =>
      rw [ensurePrompt_of_ok hset]
      exact of_silent rfl rfl rfl
  | error e =>
      rw [ensurePrompt_of_error hset]
      have hset : Told a { a with session } [] := of_silent rfl rfl rfl
      exact hset.trans (of_report _ (.prompt e))

/-- A session is left, complaints are passed on, and then its failures are reported. -/
theorem of_passed (a : Shell σ κ) (session : Session) (fs : List Failure) :
    Told a ({ a with session }.passComplaints.reportAll (fs.map Failure.message)) fs := by
  have hleft : Told a { a with session } [] := of_silent rfl rfl rfl
  exact (hleft.trans (of_passComplaints _)).trans (of_reportAll _ fs)

theorem of_loadConfig (a : Shell σ κ) : Told a a.loadConfig (a.failuresOf .loadConfig) := by
  unfold failuresOf
  cases hfile : a.locations.startup with
  | none =>
      rw [loadConfig_of_none hfile]
      exact of_ensurePrompt a
  | some path =>
      rcases hrun : Startup.source a.executor path a.session with ⟨result, session⟩
      simp only [hrun]
      cases result with
      | ok r =>
          have hpassed := of_passed a session
            (r.errors.map fun failure => .startupLine path failure.1 failure.2)
          rw [List.map_map] at hpassed
          rw [loadConfig_of_sourced hfile hrun]
          exact hpassed
      | error e =>
          have hfailed := of_passed a session (fileFailures a.locations.explicit e)
          rw [← startupMessages_error a.locations path e] at hfailed
          have hprompt := of_ensurePrompt ({ a with session }.passComplaints.reportAll
            (startupMessages a.locations path (.error e)))
          have hsession : promptFailures { a with session }.passComplaints.session =
              promptFailures session := promptFailures_complaints session []
          rw [(Alike.of_reportAll _ _).session, hsession] at hprompt
          rw [loadConfig_of_unread hfile hrun]
          exact hfailed.trans hprompt

theorem of_dispatch (a : Shell σ κ) (line : Text) :
    Told a (a.dispatch line).2 (commandFailures a.executor line a.session) := by
  rcases hrun : Dispatch.run a.executor line a.session with ⟨r, session⟩
  have hpassed := of_passed a session (r.errors.map .command)
  rw [List.map_map] at hpassed
  rw [dispatch_of_run hrun, commandFailures, hrun]
  exact hpassed

theorem of_handleLine (a : Shell σ κ) (line : Text) :
    Told a (a.handleLine line).2 (a.failuresOf (.line line)) := by
  unfold failuresOf
  cases hhook : a.hook with
  | none =>
      rw [handleLine_of_none hhook]
      exact of_dispatch a line
  | some hook =>
      rcases hask : hook.input line a.session with ⟨answer, hook', session⟩
      have hasked : Told a { a with session, hook := some hook' } [] := of_silent rfl rfl rfl
      simp only [hask]
      match answer with
      | .ok true =>
          rw [handleLine_of_handled hhook hask]
          exact hasked
      | .ok false =>
          rw [handleLine_of_left hhook hask]
          exact hasked.trans (of_dispatch _ line)
      | .error reason =>
          have hreport := of_report { a with session, hook := some hook' } (.hook reason)
          have hdispatch := of_dispatch
            ({ a with session, hook := some hook' }.report (Failure.hook reason).message) line
          have halike := Alike.of_report { a with session, hook := some hook' }
            (Failure.hook reason).message
          rw [halike.executor, halike.session] at hdispatch
          rw [handleLine_of_failed hhook hask]
          exact (hasked.trans hreport).trans hdispatch

end Told

/-! ### Many calls -/

/-- The shell after a call, and what the call gives; only a line gives anything. -/
def call (sh : Shell σ κ) : Call → Option Int × Shell σ κ
  | .loadConfig => (none, sh.loadConfig)
  | .line text => sh.handleLine text

/-- What every one of some calls gives, with the shell after it. -/
def calls : List Call → Shell σ κ → List (Option Int × Shell σ κ)
  | [], _ => []
  | c :: cs, sh => sh.call c :: calls cs (sh.call c).2

/-- The failures in some calls, in order. -/
def failures : List Call → Shell σ κ → List Failure
  | [], _ => []
  | c :: cs, sh => sh.failuresOf c ++ failures cs (sh.call c).2

theorem Told.of_call (sh : Shell σ κ) (c : Call) : Told sh (sh.call c).2 (sh.failuresOf c) := by
  cases c with
  | loadConfig => exact Told.of_loadConfig sh
  | line text => exact Told.of_handleLine sh text

variable [Sink κ'] {a : Shell σ κ} {b : Shell σ κ'}

theorem Alike.call (h : Alike a b) (c : Call) : Agree (a.call c) (b.call c) := by
  cases c with
  | loadConfig => exact ⟨rfl, h.loadConfig⟩
  | line text => exact h.handleLine text

theorem Alike.calls (h : Alike a b) (cs : List Call) :
    List.Forall₂ Agree (calls cs a) (calls cs b) := by
  induction cs generalizing a b with
  | nil => exact .nil
  | cons c cs ih => exact .cons (h.call c) (ih (h.call c).alike)

theorem Alike.failures (h : Alike a b) (cs : List Call) : failures cs b = failures cs a := by
  induction cs generalizing a b with
  | nil => rfl
  | cons c cs ih => rw [Shell.failures, Shell.failures, h.failuresOf c, ih (h.call c).alike]

end

end Shell

end AliasShell
