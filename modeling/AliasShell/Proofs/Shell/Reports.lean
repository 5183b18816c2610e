/-
What a shell reports, and what it leaves as it is.

All that a shell does comes to three things: its session goes on, its hook does, and
something is written into its error channel.  Reports are writes of the shell there,
as long as it is not told to be quiet, and complaints of programs are passed on to the
same place.  `dispatch_eq` says what a line comes to, and `loadConfig_kept` that a
startup file changes nothing but session and channel.
-/
import AliasShell.Proofs.Console
import AliasShell.Shell.Basic

namespace AliasShell

namespace Shell

variable {σ : Type}

/-! ### Reports -/

/-- A channel after these reports. -/
def reported (sh : Shell σ) (messages : List Text) (c : Console) : Console :=
  if sh.quiet then c else c.writeAll (messages.map fun m => (sh.reportText m).encode)

/-- Reports go to the channel for them, and nowhere else. -/
theorem reportAll_eq (sh : Shell σ) (messages : List Text) :
    sh.reportAll messages = { sh with errors := sh.reported messages sh.errors } := by
  induction messages generalizing sh with
  | nil => rcases sh with ⟨session, executor, locations, _ | _, hook, highlighter, errors⟩ <;> rfl
  | cons m ms ih =>
      refine (ih (sh.report m)).trans ?_
      rcases sh with ⟨session, executor, locations, _ | _, hook, highlighter, errors⟩ <;> rfl

theorem reported_nil (sh : Shell σ) (c : Console) : sh.reported [] c = c := by
  unfold reported
  split
  · rfl
  · rfl

theorem reported_append (sh : Shell σ) (ms ns : List Text) (c : Console) :
    sh.reported (ms ++ ns) c = sh.reported ns (sh.reported ms c) := by
  unfold reported
  split
  · rfl
  · rw [List.map_append, Console.writeAll_append]

theorem reported_sameOwn (sh : Shell σ) (ms : List Text) {c d : Console} (h : c.SameOwn d) :
    (sh.reported ms c).SameOwn (sh.reported ms d) := by
  unfold reported
  split
  · exact h
  · exact h.writeAll _

theorem written_child_reported (sh : Shell σ) (ms : List Text) (c : Console) :
    (sh.reported ms c).written .child = c.written .child := by
  unfold reported
  split
  · rfl
  · exact c.written_child_writeAll _

/-! ### One line -/

/-- A line is run, complaints are passed on, and then failures are reported. -/
theorem dispatch_eq (sh : Shell σ) (line : Text) :
    sh.dispatch line =
      match Dispatch.run sh.executor line sh.session with
      | (r, session) =>
        (r.exit, { sh with
          session := { session with complaints := [] }
          errors := sh.reported (r.errors.map CommandError.message)
            (sh.errors.childWrote session.complaints) }) := by
  rw [dispatch]
  simp only [reportAll_eq]
  rfl

/-! ### The startup file -/

/-- A report is written and changes nothing else. -/
theorem report_kept (sh : Shell σ) (message : Text) :
    sh.report message = { sh with errors := (sh.report message).errors } := by
  unfold report
  split
  · rfl
  · rfl

theorem ensurePrompt_kept (sh : Shell σ) :
    sh.ensurePrompt =
      { sh with session := sh.ensurePrompt.session, errors := sh.ensurePrompt.errors } := by
  unfold ensurePrompt
  split
  · rfl
  · rw [report_kept]

/-- A startup file changes the session, and may be reported on. -/
theorem loadConfig_kept (sh : Shell σ) :
    sh.loadConfig =
      { sh with session := sh.loadConfig.session, errors := sh.loadConfig.errors } := by
  unfold loadConfig
  split
  · exact sh.ensurePrompt_kept
  · simp only [reportAll_eq]
    split
    · rfl
    · rw [ensurePrompt_kept]
      rfl

end Shell

end AliasShell
