/-
Lines read one after another, and the same lines as one command.

A shell that reads its lines runs each of them on its own: it shows a prompt, runs the
line, passes on what programs have complained of, and reports; then its process goes
where the session is, and the lines read so far are saved.  A shell that is given one
command runs all lines on one session, passes on and reports at the end, and its process
stays where it was.  Apart from the prompts the first one has a banner in its output that
the second one lacks.

`loop_follows` goes through the lines with both at once.  What carries it is that the
session of the one is at every line that of the other behind the banner and in another
place (`Session.Shifted`); that the complaints passed on so far are those that the other
still keeps; and that the reports so far are those that the other will make.  Reports
and complaints may alternate in one error channel and not in the other, so each of the
two is compared for itself.

The banner, the place of the process, the order in the error channel and a history that
is saved are all that tells the two apart, and each of them can: `run_joined_apart`.
-/
import AliasShell.Proofs.Dispatch.Lines
import AliasShell.Proofs.Dispatch.Shifted
import AliasShell.Proofs.Shell.Reports
import AliasShell.Shell.Loop

namespace AliasShell

namespace Shell

variable {σ : Type}

/-! ### The loop and one session -/

/-- The session of the shell is `s` behind `extra`, and the complaints that it has not kept are in
the channel for reports, after `base`. -/
def Tracks (R : Files → Files → Prop) (before : List (Origin × Bytes)) (extra : List Bytes)
    (base : Bytes) (s : Session) (sh : Shell σ) : Prop :=
  ∃ passed, s.Shifted R before extra passed sh.session ∧ sh.errors.written .child = base ++ passed

/-- From `s` on lines have come to `o`, and the shell that runs them from `sh` on to `a`. -/
structure Follows (R : Files → Files → Prop) (before : List (Origin × Bytes)) (extra : List Bytes)
    (base : Bytes) (s : Session) (sh : Shell σ) (o : Report × Session) (a : Shell σ) : Prop where
  kept : a = { sh with session := a.session, errors := a.errors }
  tracks : Tracks R before extra base o.2 a
  room : o.2.console.HasRoom extra.flatten.length → s.console.HasRoom extra.flatten.length
  /-- the shell has reported what there was to report -/
  reports : o.2.console.HasRoom extra.flatten.length →
    a.errors.SameOwn (sh.reported (o.1.errors.map CommandError.message) sh.errors)

variable {R : Files → Files → Prop} {before : List (Origin × Bytes)} {extra : List Bytes}
variable {base : Bytes} {s s' s'' : Session} {sh a a' : Shell σ}

/-- A prompt changes nothing that counts. -/
theorem showPrompt_follows (prompts : Bool) (h : Tracks R before extra base s sh) :
    Follows R before extra base s sh (.quiet, s) (sh.showPrompt prompts) := by
  obtain ⟨passed, hs, hbase⟩ := h
  have hquiet : sh.errors.SameOwn (sh.reported [] sh.errors) := by
    rw [reported_nil]
    exact .refl _
  cases prompts with
  | false => exact ⟨rfl, ⟨passed, hs, hbase⟩, id, fun _ => hquiet⟩
  | true =>
      exact ⟨rfl, ⟨passed, { hs with console := fun hroom => (hs.console hroom).prompted _ }, hbase⟩,
        id, fun _ => hquiet⟩

/-- A line is run alike, and then complaints are passed on and failures reported. -/
theorem dispatch_follows {x : Executor} (hx : x.launcher.IgnoresPlace) (hsh : sh.executor = x)
    (line : Text)
    (hseen : ∀ t ∈ Dispatch.turns x (Dispatch.routedBy x line s) s, t.Overlooks R x)
    (h : Tracks R before extra base s sh) :
    ∃ a, sh.dispatch line = ((Dispatch.run x line s).1.exit, a) ∧
      Follows R before extra base s sh (Dispatch.run x line s) a := by
  subst hsh
  obtain ⟨passed, hs, hbase⟩ := h
  have hrun := Dispatch.run_shifted hx line hseen hs
  rw [dispatch_eq]
  simp only
  generalize Dispatch.run sh.executor line sh.session = o at hrun ⊢
  obtain ⟨r, t⟩ := o
  refine ⟨_, congrArg (·, _) hrun.exit.symm, rfl, ⟨passed ++ t.complaints, ?_, ?_⟩, hrun.room, ?_⟩
  · exact { hrun.session with
      complaints := hrun.session.complaints.trans (List.append_nil _).symm }
  · rw [written_child_reported, Console.childWrote, Console.written_append_self, hbase,
      List.append_assoc]
  · intro hroom
    rw [hrun.errors hroom]
    exact sh.reported_sameOwn _ (.childWrote _ _)

/-- What becomes of files when lines are saved is allowed by `R`. -/
def SavesWithin (sh : Shell σ) (r : LineReader) (R : Files → Files → Prop) : Prop :=
  ∀ path ∈ sh.locations.history, ∀ lines fs fs' place, R fs fs' →
    R fs (r.save path lines (fs'.standingAt place))

/-- Files that `R` allows are nothing that counts, nor is where the process stands. -/
theorem Follows.withFiles {o : Report × Session} {fs : Files} (hfs : R o.2.files fs)
    (place : Location) (h : Follows R before extra base s sh o a) :
    Follows R before extra base s sh o
      { a with session := { a.session with files := fs.standingAt place } } := by
  obtain ⟨passed, hs, hbase⟩ := h.tracks
  refine ⟨?_, ⟨passed, { hs with files := ⟨fs, place, hfs, rfl⟩ }, hbase⟩, h.room, h.reports⟩
  rw [h.kept]

theorem Follows.followSession {o : Report × Session} (h : Follows R before extra base s sh o a) :
    Follows R before extra base s sh o a.followSession := by
  obtain ⟨passed, hs, -⟩ := h.tracks
  obtain ⟨fs, place, hfs, hplace⟩ := hs.files
  obtain ⟨next, hnext⟩ := a.session.files.exists_goTo a.session.cwd
  have hgone : a.session.files.goTo a.session.cwd = fs.standingAt next :=
    hnext.trans (congrArg (Files.standingAt · next) hplace :)
  rw [Shell.followSession, hgone]
  exact h.withFiles hfs next

theorem Follows.saveHistory {o : Report × Session} {r : LineReader} (hr : sh.SavesWithin r R)
    (h : Follows R before extra base s sh o a) :
    Follows R before extra base s sh o (a.saveHistory r) := by
  have hsaves : a.SavesWithin r R := by rw [h.kept]; exact hr
  obtain ⟨passed, hs, -⟩ := h.tracks
  obtain ⟨fs, place, hfs, hplace⟩ := hs.files
  unfold Shell.saveHistory
  split
  · exact h
  · next path hpath =>
      have hsaved := hsaves path hpath r.history o.2.files fs place hfs
      rw [← hplace] at hsaved
      exact h.withFiles hsaved _

theorem Follows.afterLine {o : Report × Session} {r : LineReader} (hr : sh.SavesWithin r R)
    (h : Follows R before extra base s sh o a) :
    Follows R before extra base s sh o (a.afterLine r) :=
  h.followSession.saveHistory hr

/-- What follows after the middle follows on the whole way. -/
theorem Follows.append {o o' : Report × Session} (h : Follows R before extra base s sh o a)
    (h' : Follows R before extra base o.2 a o' a') :
    Follows R before extra base s sh (o.1.append o'.1, o'.2) a' := by
  have hreported : ∀ ms c, a.reported ms c = sh.reported ms c := by
    rw [h.kept]
    exact fun _ _ => rfl
  refine ⟨?_, h'.tracks, fun hroom => h.room (h'.room hroom), fun hroom => ?_⟩
  · rw [h'.kept, h.kept]
  · rw [Report.append, List.map_append, reported_append]
    have hrest := h'.reports hroom
    rw [hreported] at hrest
    exact hrest.trans (sh.reported_sameOwn _ (h.reports (h'.room hroom)))

theorem loop_nil (hhook : sh.hook = none) (r : LineReader) :
    sh.loop r [] = (.ok 0, sh.showPrompt r.prompts) := by
  rw [loop, loopThen, atEnd, beforePrompt, hhook]

theorem loop_cons (hhook : sh.hook = none) (r : LineReader) (line : Text)
    (rest : List (Option Text)) :
    sh.loop r (some line :: rest) =
      match (sh.showPrompt r.prompts).dispatch line with
      | (some code, sh) => (.ok code, sh.afterLine (r.took line))
      | (none, sh) => (sh.afterLine (r.took line)).loop (r.took line) rest := by
  have hshown : (sh.showPrompt r.prompts).hook = none := by
    cases r.prompts with
    | false => exact hhook
    | true => exact hhook
  rw [loop, loopThen, beforePrompt, hhook]
  simp only [LineReader.took]
  rw [handleLine, hshown]
  rfl

/-- **The loop follows the lines run on one session**, if their turns overlook what is saved. -/
theorem loop_follows {x : Executor} (hx : x.launcher.IgnoresPlace) :
    ∀ (lines : List Text) {r : LineReader} {s : Session} {sh : Shell σ},
    sh.hook = none → sh.executor = x → sh.SavesWithin r R →
    (∀ t ∈ Dispatch.turns x
      (Dispatch.collect (Dispatch.run x) (Dispatch.routedBy x) lines s) s, t.Overlooks R x) →
    Tracks R before extra base s sh →
      ∃ a, sh.loop r (lines.map some) =
          (.ok ((Dispatch.sequence (Dispatch.run x) lines s).1.exit.getD 0), a) ∧
        Follows R before extra base s sh (Dispatch.sequence (Dispatch.run x) lines s) a := by
  intro lines
  induction lines with
  | nil =>
      intro r s sh hhook _ _ _ h
      rw [List.map_nil, loop_nil hhook, Dispatch.sequence]
      exact ⟨_, rfl, showPrompt_follows r.prompts h⟩
  | cons line lines ih =>
      intro r s sh hhook hsh hr hseen h
      obtain ⟨hfirst, hlater⟩ :=
        Dispatch.forall_turns_collect_cons (Dispatch.replay_line x line s) hseen
      have hprompt := showPrompt_follows r.prompts h
      have hexecutor : (sh.showPrompt r.prompts).executor = x := by rw [hprompt.kept]; exact hsh
      obtain ⟨b, hdispatch, hline⟩ := dispatch_follows hx hexecutor line hfirst hprompt.tracks
      have hran := hprompt.append hline
      simp only [Report.quiet_append, Prod.eta] at hran
      have hfront := hran.afterLine (r := r.took line) hr
      rw [List.map_cons, loop_cons hhook, hdispatch]
      cases he : (Dispatch.run x line s).1.exit with
      | none =>
          have hnext : (b.afterLine (r.took line)).hook = none := by rw [hfront.kept]; exact hhook
          have hnextx : (b.afterLine (r.took line)).executor = x := by rw [hfront.kept]; exact hsh
          have hnextr : (b.afterLine (r.took line)).SavesWithin (r.took line) R := by
            rw [hfront.kept]
            exact hr
          obtain ⟨a, hloop, hrest⟩ := ih hnext hnextx hnextr (hlater he) hfront.tracks
          rw [Dispatch.sequence_cons_next he]
          exact ⟨a, hloop, hfront.append hrest⟩
      | some code =>
          rw [Dispatch.sequence_cons_exit (by rw [he]; rfl)]
          exact ⟨b.afterLine (r.took line), by rw [he]; rfl, hfront⟩

/-! ### Before the lines -/

/-- What a shell that reads its lines writes before the first of them. -/
def greeting (sh : Shell σ) : List Bytes := if sh.quiet then [] else [banner.encode]

/-- A banner that is taken leaves the loop behind it. -/
theorem greet_tracks {sh : Shell σ} (next : Shell σ → Outcome σ)
    (hcwd : Path.isAbsolute sh.session.cwd = true) (hfiles : R sh.session.files sh.session.files)
    (h : sh.quiet = false → (sh.session.write banner).2 = true) :
    ∃ session, greet next sh = next { sh with session } ∧
      Tracks R sh.session.console.shown sh.greeting (sh.errors.written .child) sh.session
        { sh with session } := by
  have htwin : sh.session.Twin R sh.session :=
    ⟨rfl, rfl, rfl, rfl, rfl, rfl, rfl, ⟨_, sh.session.files.current, hfiles, rfl⟩, hcwd⟩
  by_cases hq : sh.quiet = true
  · refine ⟨sh.session, if_pos hq, [], ?_, (List.append_nil _).symm⟩
    rw [greeting, if_pos hq]
    exact { htwin with complaints := rfl, console := fun _ => .refl _ }
  · have hwrite := h (Bool.eq_false_iff.mpr hq)
    refine ⟨(sh.session.write banner).1, ?_, [], ?_, (List.append_nil _).symm⟩
    · rw [greet, if_neg hq]
      rcases hw : sh.session.write banner with ⟨session, ok⟩
      rw [hw] at hwrite
      obtain rfl : ok = true := hwrite
      rfl
    · rw [greeting, if_neg hq]
      exact { htwin with complaints := rfl, console := fun _ => .of_write hwrite }

/-! ### Lines and a command -/

/-- The command runs the startup file, then its lines on one session; then it passes on complaints
and reports. -/
theorem runCommand_joinedLines (hhook : sh.hook = none) (lines : List Text) :
    sh.runCommand (joinedLines lines) =
      match Dispatch.sequence (Dispatch.run sh.executor) lines sh.loadConfig.session with
      | (r, s) =>
        (r.exit.getD 0, { sh.loadConfig with
          session := { s with complaints := [] }
          errors := sh.loadConfig.reported (r.errors.map CommandError.message)
            (sh.loadConfig.errors.childWrote s.complaints) }) := by
  have hkept := sh.loadConfig_kept
  have hloaded : sh.loadConfig.hook = none := by rw [hkept]; exact hhook
  have hexecutor : sh.loadConfig.executor = sh.executor := by rw [hkept]
  unfold runCommand handleLine
  rw [hloaded]
  simp only
  rw [dispatch_eq, hexecutor, Dispatch.run_joinedLines]

/-- The two shells have left the same behind: in their sessions, in what they asked for, in files
but for what `R` allows, and in what programs have complained of, which the first one may still
keep. -/
structure SameEnd (R : Files → Files → Prop) (a c : Shell σ) : Prop where
  aliases : a.session.aliases = c.session.aliases
  env : a.session.env = c.session.env
  cwd : a.session.cwd = c.session.cwd
  files : ∃ fs place, R c.session.files fs ∧ a.session.files = fs.standingAt place
  requests : a.session.requests = c.session.requests
  complaints : a.errors.written .child ++ a.session.complaints = c.errors.written .child

/-- **Lines read one after another end as they do as one command.**  Let a shell without a hook take
its lines from somewhere, and a shell like it get all of them as one command with `;` in between.
Both run the same lines: those up to the first that exits, each of them in the session that the line
before it left, and no line after it.  They end with the code of that line, or with 0, and they leave
the same behind.

So much holds wherever the banner is taken, the directory of the session is absolute when the first
line is read, programs start in it, and no turn that the command comes to sees what is saved.  Where
nothing is saved, `R` can be equality, and there is nothing to see.  The output of the command may
still have room for the banner at the end, as it has without a limit; then the two outputs differ in
the banner alone, right behind what the startup file wrote, and the two shells have reported the
same. -/
theorem run_joined (r : LineReader) (lines : List Text) {sh : Shell σ} {R : Files → Files → Prop}
    (hhook : sh.hook = none)
    (hbanner : sh.quiet = false → (sh.loadConfig.session.write banner).2 = true)
    (hcwd : Path.isAbsolute sh.loadConfig.session.cwd = true)
    (hlauncher : sh.executor.launcher.IgnoresPlace)
    (hfiles : R sh.loadConfig.session.files sh.loadConfig.session.files)
    (hsaves : sh.SavesWithin r R)
    (hseen : ∀ t ∈ Dispatch.history sh.executor [joinedLines lines] sh.loadConfig.session,
      t.Overlooks R sh.executor) :
    ∃ (report : Report) (s : Session) (a c : Shell σ),
      Dispatch.Course sh.executor sh.loadConfig.session lines report s ∧
      sh.run (loop r (lines.map some)) = (.ok (report.exit.getD 0), a) ∧
      sh.runCommand (joinedLines lines) = (report.exit.getD 0, c) ∧
      c.session = { s with complaints := [] } ∧ a.SameEnd R c ∧
      (c.session.console.HasRoom sh.greeting.flatten.length →
        a.errors.written .shell = c.errors.written .shell ∧
        ∃ since, c.session.console.shown = sh.loadConfig.session.console.shown ++ since ∧
          a.session.console.shown =
            sh.loadConfig.session.console.shown ++ sh.greeting.map (.shell, ·) ++ since) := by
  have hkept := sh.loadConfig_kept
  have hexecutor : sh.loadConfig.executor = sh.executor := by rw [hkept]
  have hquiet : sh.loadConfig.quiet = sh.quiet := by rw [hkept]
  have hgreeting : sh.loadConfig.greeting = sh.greeting := by rw [greeting, hquiet, greeting]
  rw [Dispatch.history, Dispatch.history, List.append_nil, Dispatch.routedBy_joinedLines] at hseen
  -- the loop begins behind the banner
  obtain ⟨session, hgreet, htracks⟩ :=
    greet_tracks (loop r (lines.map some)) hcwd hfiles (hquiet ▸ hbanner)
  have hhook' : { sh.loadConfig with session }.hook = none := by
    rw [hkept]
    exact hhook
  have hsaves' : { sh.loadConfig with session }.SavesWithin r R := by
    rw [hkept]
    exact hsaves
  obtain ⟨a, hloop, hfollows⟩ :=
    loop_follows hlauncher lines hhook' hexecutor hsaves' hseen htracks
  have hcourse := Dispatch.course_sequence sh.executor lines sh.loadConfig.session
  have hcommand := runCommand_joinedLines hhook lines
  rw [hgreeting] at hfollows
  generalize Dispatch.sequence (Dispatch.run sh.executor) lines sh.loadConfig.session = o at *
  obtain ⟨report, s⟩ := o
  obtain ⟨passed, hs, hpassed⟩ := hfollows.tracks
  refine ⟨report, s, a, _, hcourse, hgreet.trans hloop, hcommand, rfl, ?_, fun hroom => ⟨?_, ?_⟩⟩
  · refine ⟨hs.aliases.symm, hs.env.symm, hs.cwd.symm, hs.files, hs.requests.symm, ?_⟩
    rw [written_child_reported, Console.childWrote, Console.written_append_self, hs.complaints,
      hpassed, List.append_assoc]
  · have hreports := (hfollows.reports hroom).written
    exact hreports.trans (reported_sameOwn _ _ (.childWrote _ _)).written.symm
  · exact (hs.console hroom).shown

/-- A channel for 100 bytes, a startup file that fails, a program that writes and complains twice,
an alias, an exit in the middle of a line, and a history that nothing looks at. -/
theorem run_joined_exit :
    let x : Executor :=
      ⟨⟨fun files input _ _ =>
        ⟨.ok (.exited 0), files, input, Text.encode "done\n", Text.encode "slow\n"⟩⟩, none⟩
    let rc : Node := .file (Text.encode "alias add g=print; cd /no") ⟨Traits.plainMode, 0, 0⟩
    let files : Files := { Files.empty with nodes := [(["rc"], rc)] }
    let r : LineReader :=
      ⟨true, [], fun path ls fs => fs.create path (.ofFile (Text.unwords ls).encode false 0)⟩
    let sh : Shell Unit :=
      { session := { Session.fresh "/" with console := .limited 100, files }
        executor := x, locations := ⟨some "/rc", some "/h", true⟩, quiet := false, hook := none
        highlighter := .plain, errors := .unlimited }
    let lines : List Text := ["g hi; run", "cd /no; run", "exit 3; g never", "g never"]
    let R (fs gs : Files) : Prop := fs.nodes = files.nodes ∧
      (gs.nodes = files.nodes ∨ ∃ b, gs.nodes = files.nodes ++ [(["h".toList], .ofFile b false 0)])
    (sh.quiet = false → (sh.loadConfig.session.write banner).2 = true) ∧
      Path.isAbsolute sh.loadConfig.session.cwd = true ∧ x.launcher.IgnoresPlace ∧
      R sh.loadConfig.session.files sh.loadConfig.session.files ∧ sh.SavesWithin r R ∧
      (∀ t ∈ Dispatch.history x [joinedLines lines] sh.loadConfig.session, t.Overlooks R x) ∧
      ∃ a c, sh.run (loop r (lines.map some)) = (.ok 3, a) ∧
        sh.runCommand "g hi; run;cd /no; run;exit 3; g never;g never" = (3, c) ∧ a.SameEnd R c ∧
        a.session.files.readText "/h" = .ok "g hi; run cd /no; run exit 3; g never".toList ∧
        a.errors.written .shell = c.errors.written .shell ∧
        ∃ since, c.session.console.shown = sh.loadConfig.session.console.shown ++ since ∧
          a.session.console.shown =
            sh.loadConfig.session.console.shown ++ (.shell, banner.encode) :: since := by
  intro x rc files r sh lines R
  have hbanner : sh.quiet = false → (sh.loadConfig.session.write banner).2 = true := fun _ => by
    decide +kernel
  have hcwd : Path.isAbsolute sh.loadConfig.session.cwd = true := by decide +kernel
  have hlauncher : x.launcher.IgnoresPlace := fun _ _ _ _ _ _ => rfl
  have hnodes : sh.loadConfig.session.files.nodes = files.nodes := by decide +kernel
  have hfiles : R sh.loadConfig.session.files sh.loadConfig.session.files := ⟨hnodes, .inl hnodes⟩
  have hsaves : sh.SavesWithin r R := by
    rintro path hpath ls fs ⟨nodes, current, now, mask⟩ place ⟨hfs, hnodes | ⟨b, hnodes⟩⟩
    · obtain rfl := Option.mem_some.mp hpath
      obtain rfl : nodes = files.nodes := hnodes
      exact ⟨hfs, .inr ⟨_, rfl⟩⟩
    · obtain rfl := Option.mem_some.mp hpath
      obtain rfl : nodes = files.nodes ++ _ := hnodes
      exact ⟨hfs, .inr ⟨_, rfl⟩⟩
  have hmissing : ∀ fs : Files, (fs.nodes = files.nodes ∨
      ∃ b, fs.nodes = files.nodes ++ [(["h".toList], .ofFile b false 0)]) →
        fs.canonical "/no" = .error .notFound := by
    rintro ⟨nodes, current, now, mask⟩ (hnodes | ⟨b, hnodes⟩)
    · obtain rfl : nodes = files.nodes := hnodes
      rfl
    · obtain rfl : nodes = files.nodes ++ _ := hnodes
      rfl
  have hcd : ∀ s : Session, s.files.canonical "/no" = .error .notFound →
      Builtin.Cd.run ["/no"] s = s.fail (Builtin.Cd.refused "/no" SysError.notFound.message) := by
    intro s hs
    have hresolve : s.resolve (Builtin.Cd.target ["/no"] s.home) = .ok "/no".toList := rfl
    unfold Builtin.Cd.run
    simp only [hresolve, hs]
    rfl
  have hturns : ∀ t ∈ Dispatch.history x [joinedLines lines] sh.loadConfig.session,
      t.command ∈ [⟨"print", ["hi"]⟩, ⟨"run", []⟩, ⟨"cd", ["/no"]⟩, ⟨"exit", ["3"]⟩] := by
    decide +kernel
  have hseen : ∀ t ∈ Dispatch.history x [joinedLines lines] sh.loadConfig.session,
      t.Overlooks R x := by
    rintro ⟨c, s⟩ ht
    rcases (by simpa using hturns _ ht :
        c = ⟨"print", ["hi"]⟩ ∨ c = ⟨"run", []⟩ ∨ c = ⟨"cd", ["/no"]⟩ ∨ c = ⟨"exit", ["3"]⟩) with
      rfl | rfl | rfl | rfl
    · exact Dispatch.Turn.overlooks_of_sameDeed rfl fun fs _ => ⟨.print s.aliases _, rfl, rfl⟩
    · exact fun fs hfs => ⟨fs, hfs, rfl⟩
    · refine Dispatch.Turn.overlooks_of_sameDeed rfl fun fs hfs => ⟨.fail _, hcd s ?_, hcd _ ?_⟩
      · exact hmissing _ (.inl hfs.1)
      · exact hmissing _ hfs.2
    · exact Dispatch.Turn.overlooks_of_sameDeed rfl fun fs _ => ⟨.exit 3, rfl, rfl⟩
  have hline : joinedLines lines = "g hi; run;cd /no; run;exit 3; g never;g never".toList := by
    decide +kernel
  have hcode : (sh.runCommand (joinedLines lines)).1 = 3 := by decide +kernel
  have hroom : (sh.runCommand (joinedLines lines)).2.session.console.HasRoom
      sh.greeting.flatten.length := by decide +kernel
  have hhistory : (sh.run (loop r (lines.map some))).2.session.files.readText "/h" =
      .ok "g hi; run cd /no; run exit 3; g never".toList := by decide +kernel
  obtain ⟨report, s, a, c, -, hloop, hcommand, -, hend, htexts⟩ :=
    run_joined r lines rfl hbanner hcwd hlauncher hfiles hsaves hseen
  rw [hcommand] at hcode hroom
  rw [hloop] at hhistory
  obtain ⟨hreports, since, hc, ha⟩ := htexts hroom
  have hexit : report.exit.getD 0 = 3 := hcode
  rw [hexit] at hloop hcommand
  rw [hline] at hcommand
  refine ⟨hbanner, hcwd, hlauncher, hfiles, hsaves, hseen, a, c, hloop, hcommand, hend, hhistory,
    hreports, since, hc, ?_⟩
  rw [ha, List.append_assoc]
  rfl

/-- Each of these can tell the two apart where the banner is taken: room that the banner has taken,
a relative directory that the process has gone into, the place of the process where a program looks
at it, a history that has been saved, and the order in which reports and complaints come. -/
theorem run_joined_apart :
    let x : Executor :=
      ⟨⟨fun files input _ _ =>
        ⟨.ok (.exited 0), files, input, [], (Path.ofLocation files.current).encode ++ [10]⟩⟩, none⟩
    let sh (s : Session) : Shell Unit :=
      { session := s, executor := x, locations := ⟨none, some "/h", false⟩, quiet := false
        hook := none, highlighter := .plain, errors := .unlimited }
    let plain : LineReader := ⟨false, [], fun _ _ fs => fs⟩
    let saving : LineReader :=
      ⟨false, [], fun path lines fs => fs.create path (.ofFile (Text.unwords lines).encode false 0)⟩
    let looped (r : LineReader) (lines : List Text) (s : Session) : Shell Unit :=
      ((sh s).run (loop r (lines.map some))).2
    let joined (lines : List Text) (s : Session) : Shell Unit :=
      ((sh s).runCommand (joinedLines lines)).2
    let short : Session := { Session.fresh "/" with console := .limited 40 }
    let within (cwd : Text) : Session :=
      { Session.fresh cwd with
        files := { Files.empty with nodes := [(["d".toList], .ofDir 0)] } }
    let failure : Text := "cd: /no: No such file or directory (os error 2)\n"
    (∀ s ∈ [short, within "d", within "/d", .fresh "/"],
        ((sh s).loadConfig.session.write banner).2 = true) ∧
      ((looped plain ["print hello"] short).errors.bytes = Text.encode "IO error: sink full\n" ∧
        (joined ["print hello"] short).errors.bytes = []) ∧
      ((looped plain ["print", "ls"] (within "d")).errors.bytes =
          Text.encode "ls: .: No such directory\n" ∧
        (joined ["print", "ls"] (within "d")).errors.bytes = []) ∧
      ((looped plain ["print", "run"] (within "/d")).errors.bytes = Text.encode "/d\n" ∧
        (joined ["print", "run"] (within "/d")).errors.bytes = Text.encode "/\n") ∧
      ((looped saving ["print", "ls"] (.fresh "/")).session.console.bytes =
          banner.encode ++ Text.encode "\nh\n" ∧
        (joined ["print", "ls"] (.fresh "/")).session.console.bytes = Text.encode "\n\n") ∧
      ((looped plain ["cd /no", "run"] (.fresh "/")).errors.bytes =
          failure.encode ++ Text.encode "/\n" ∧
        (joined ["cd /no", "run"] (.fresh "/")).errors.bytes =
          Text.encode "/\n" ++ failure.encode) := by
  decide +kernel

end Shell

end AliasShell
