/-
What a builtin does.

A builtin looks at the aliases, the variables, the directory, the home, the evaluator
and the files of its session, and then it does one thing: it fails, it ends the
session, it changes something and is silent, or it prints, perhaps after a change of
the aliases.  A `Deed` is one of these, with what it comes to.  Sessions that agree in
all that a builtin looks at are `Akin`, and `sameDeed_of_action?` says that a builtin
does the same deed in both of them.  Sessions that are `Alike` are akin: they have the
same files.

So what a builtin leads to in two sessions is settled by how the four kinds of deeds
work there, and needs no look at the builtins themselves.
-/
import AliasShell.Proofs.Canonical
import AliasShell.Proofs.Surroundings

namespace AliasShell

/-- The sessions agree in all that a command can depend on. -/
structure Session.Alike (s₁ s₂ : Session) : Prop where
  aliases : s₁.aliases = s₂.aliases
  env : s₁.env = s₂.env
  cwd : s₁.cwd = s₂.cwd
  home : s₁.home = s₂.home
  evaluator : s₁.evaluator = s₂.evaluator
  files : s₁.files = s₂.files

/-- Builtins find the same at the path. -/
structure Files.SameAt (p : Text) (fs₁ fs₂ : Files) : Prop where
  canonical : fs₁.canonical p = fs₂.canonical p
  isDir : fs₁.isDir p = fs₂.isDir p
  readDir : fs₁.readDir p = fs₂.readDir p

/-- The sessions agree in all that a builtin looks at.  At files it looks by paths that the session
has resolved, and by canonical ones. -/
structure Session.Akin (s₁ s₂ : Session) : Prop where
  aliases : s₁.aliases = s₂.aliases
  env : s₁.env = s₂.env
  cwd : s₁.cwd = s₂.cwd
  home : s₁.home = s₂.home
  evaluator : s₁.evaluator = s₂.evaluator
  resolved : ∀ {path p : Text}, s₂.resolve path = .ok p → Files.SameAt p s₁.files s₂.files
  absolute : ∀ {p : Text}, Path.isAbsolute p = true → Files.SameAt p s₁.files s₂.files

theorem Session.Alike.akin {s₁ s₂ : Session} (h : s₁.Alike s₂) : s₁.Akin s₂ := by
  have hsame : ∀ p, Files.SameAt p s₁.files s₂.files := fun p => h.files ▸ ⟨rfl, rfl, rfl⟩
  exact ⟨h.aliases, h.env, h.cwd, h.home, h.evaluator, fun _ => hsame _, fun _ => hsame _⟩

namespace Builtin

/-- What a builtin has come to do. -/
inductive Deed where
  /-- it fails, and nothing has happened -/
  | fail (e : CommandError)
  | exit (code : Int)
  /-- it leaves these behind, and is silent -/
  | change (aliases : Aliases) (env : Environment) (cwd : Text)
  /-- it leaves these aliases behind, and prints -/
  | print (aliases : Aliases) (t : Text)

/-- Does it in a session. -/
def Deed.perform : Deed → Session → Outcome
  | .fail e, s => s.fail e
  | .exit code, s => (s, .ok (.exit code))
  | .change aliases env cwd, s => { s with aliases, env, cwd }.done
  | .print aliases t, s => { s with aliases }.print t

/-- A deed leaves the files alone, whatever they are. -/
theorem Deed.perform_files (d : Deed) (s : Session) (fs : Files) :
    (d.perform s).1.files = s.files ∧
      d.perform { s with files := fs } =
        ({ (d.perform s).1 with files := fs }, (d.perform s).2) := by
  cases d with
  | print aliases t =>
      rw [perform, perform, Session.print_eq, Session.print_eq]
      exact ⟨rfl, rfl⟩
  | _ => exact ⟨rfl, rfl⟩

/-- One and the same deed leads to these outcomes. -/
def SameDeed (s₁ s₂ : Session) (o₁ o₂ : Outcome) : Prop :=
  ∃ d : Deed, o₁ = d.perform s₁ ∧ o₂ = d.perform s₂

variable {s₁ s₂ : Session}

/-! ### The ways in which a builtin ends -/

theorem sameDeed_fail (s₁ s₂ : Session) (e : CommandError) :
    SameDeed s₁ s₂ (s₁.fail e) (s₂.fail e) := ⟨.fail e, rfl, rfl⟩

theorem sameDeed_print (h : s₁.Akin s₂) (t : Text) : SameDeed s₁ s₂ (s₁.print t) (s₂.print t) :=
  ⟨.print s₁.aliases t, rfl, by rw [h.aliases]; rfl⟩

theorem sameDeed_setVar (h : s₁.Akin s₂) (name value : Text) :
    SameDeed s₁ s₂ (s₁.setVar name value) (s₂.setVar name value) := by
  unfold Session.setVar
  rw [h.env]
  cases s₂.env.set name value with
  | ok env => exact ⟨.change s₁.aliases env s₁.cwd, rfl, by rw [h.aliases, h.cwd]; rfl⟩
  | error e => exact sameDeed_fail s₁ s₂ _

theorem sameDeed_unsetVar (h : s₁.Akin s₂) (name : Text) :
    SameDeed s₁ s₂ (s₁.unsetVar name) (s₂.unsetVar name) := by
  unfold Session.unsetVar
  rw [h.env]
  cases s₂.env.unset name with
  | ok env => exact ⟨.change s₁.aliases env s₁.cwd, rfl, by rw [h.aliases, h.cwd]; rfl⟩
  | error e => exact sameDeed_fail s₁ s₂ _

theorem resolve_akin (h : s₁.Akin s₂) (path : Text) : s₁.resolve path = s₂.resolve path := by
  rw [Session.resolve, Session.resolve, h.home, h.cwd]

/-! ### Every builtin -/

theorem sameDeed_alias (h : s₁.Akin s₂) (args : List Text) :
    SameDeed s₁ s₂ (AliasVerb.run args s₁) (AliasVerb.run args s₂) := by
  rcases AliasVerb.run_cases args with
    hrun | ⟨rest, -, hrun⟩ | ⟨rest, -, hrun⟩ | hrun | ⟨form, hrun⟩ <;> rw [hrun, hrun]
  · unfold AliasVerb.list
    rw [h.aliases]
    exact sameDeed_print h _
  · unfold AliasVerb.add
    rcases AliasVerb.declaration? rest with _ | ⟨name, value⟩
    · exact sameDeed_fail s₁ s₂ _
    · exact ⟨.print (s₁.aliases.add name value) _, rfl, by rw [h.aliases]; rfl⟩
  · cases rest with
    | nil => exact sameDeed_fail s₁ s₂ _
    | cons name _ => exact ⟨.print (s₁.aliases.remove name) _, rfl, by rw [h.aliases]; rfl⟩
  · exact ⟨.change .empty s₁.env s₁.cwd, rfl, by rw [h.env, h.cwd]; rfl⟩
  · exact sameDeed_fail s₁ s₂ _

theorem sameDeed_cd (h : s₁.Akin s₂) (args : List Text) :
    SameDeed s₁ s₂ (Cd.run args s₁) (Cd.run args s₂) := by
  unfold Cd.run
  simp only
  rw [h.home, resolve_akin h, h.env]
  cases hp : s₂.resolve (Cd.target args s₂.home) with
  | error e => exact sameDeed_fail s₁ s₂ _
  | ok p =>
      simp only
      rw [(h.resolved hp).canonical]
      cases hcwd : s₂.files.canonical p with
      | error e => exact sameDeed_fail s₁ s₂ _
      | ok cwd =>
          simp only
          rw [(h.absolute (Files.isAbsolute_canonical hcwd)).isDir]
          split
          · cases s₂.env.set Cd.workingDir cwd with
            | error e => exact sameDeed_fail s₁ s₂ _
            | ok env =>
                refine ⟨.change s₁.aliases env cwd, ?_, by rw [h.aliases]; rfl⟩
                rw [← h.home]
                rfl
          · exact sameDeed_fail s₁ s₂ _

theorem sameDeed_ls (h : s₁.Akin s₂) (args : List Text) :
    SameDeed s₁ s₂ (Ls.run args s₁) (Ls.run args s₂) := by
  unfold Ls.run
  simp only
  rw [resolve_akin h]
  cases hdir : s₂.resolve (Ls.target args) with
  | error e => exact sameDeed_fail s₁ s₂ _
  | ok dir =>
      simp only
      rw [(h.resolved hdir).isDir, (h.resolved hdir).readDir]
      split
      · cases s₂.files.readDir dir with
        | error e => exact sameDeed_fail s₁ s₂ _
        | ok entries => exact sameDeed_print h _
      · exact sameDeed_fail s₁ s₂ _

theorem sameDeed_var (h : s₁.Akin s₂) (args : List Text) :
    SameDeed s₁ s₂ (Var.run args s₁) (Var.run args s₂) := by
  rcases Var.run_cases args with hrun | ⟨rest, hrun⟩ | ⟨name, words, hrun⟩ | hrun <;>
    rw [hrun, hrun]
  · unfold Var.list
    rw [h.env]
    exact sameDeed_print h _
  · cases rest with
    | nil => exact sameDeed_fail s₁ s₂ _
    | cons name _ => exact sameDeed_unsetVar h name
  · unfold Var.compute
    rw [h.evaluator]
    simp only
    cases s₂.evaluator (Var.expression words) with
    | error cause => exact sameDeed_fail s₁ s₂ _
    | ok value => exact sameDeed_setVar h name value
  · unfold Var.assign
    rcases Var.assignment? args with _ | ⟨name, value⟩
    · exact sameDeed_fail s₁ s₂ _
    · exact sameDeed_setVar h name value

/-- **In sessions that agree in what it looks at, a builtin does the same.** -/
theorem sameDeed_of_action? {verb : Text} {action : Action} (ha : action? verb = some action)
    (h : s₁.Akin s₂) (args : List Text) : SameDeed s₁ s₂ (action args s₁) (action args s₂) := by
  rcases cases_of_action? ha with rfl | rfl | rfl | rfl | rfl | rfl | rfl
  · exact sameDeed_alias h args
  · exact sameDeed_cd h args
  · exact sameDeed_print h _
  · exact ⟨.exit (exitCode args), rfl, rfl⟩
  · exact sameDeed_ls h args
  · unfold Print.run
    rw [h.env]
    exact sameDeed_print h _
  · exact sameDeed_var h args

end Builtin

end AliasShell
