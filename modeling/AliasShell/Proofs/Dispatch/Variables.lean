/-
What a turn does to the variables and to the directory.

Two builtins change variables.  `var` gives a name a value or takes it away, and `cd`
puts the directory that it goes to under `PWD`.  `wanted?` is the change that a command
asks for, `Turn.change?` the one that it makes, and that is all that happens to
variables in its turn, launches included: `Turn.env_of_change`, `Turn.env_of_none`.

The directory is changed by `cd` alone.  `Went` says how: the session goes to a directory
and the variable goes with it, or it stays where it is.
-/
import AliasShell.Proofs.Dispatch.History
import AliasShell.Proofs.Environment.Changes

namespace AliasShell

open Environment (Change)

theorem Report.failure_ne_quiet (e : CommandError) : Report.failure e ≠ .quiet := fun h => by
  cases congrArg Report.errors h

/-! ### Builtins -/

/-- The session with a change of its variables, or a failure if it cannot be made. -/
def Session.alter (s : Session) (c : Change) : Outcome :=
  match s.env.change c with
  | .ok env => { s with env }.done
  | .error e => s.fail (.env e)

/-- The variables after a change, if one is asked for and can be made. -/
def Environment.altered (env : Environment) (wanted : Option Change) : Environment :=
  match wanted with
  | none => env
  | some c =>
    match env.change c with
    | .ok env' => env'
    | .error _ => env

theorem Session.alter_env (s : Session) (c : Change) :
    (s.alter c).1.env = s.env.altered (some c) := by
  unfold alter Environment.altered
  simp only
  split
  · rfl
  · rfl

theorem Session.alter_cwd (s : Session) (c : Change) : (s.alter c).1.cwd = s.cwd := by
  unfold alter
  split
  · rfl
  · rfl

/-- A change that can be made is made without a word. -/
theorem Session.alter_quiet (s : Session) (c : Change) :
    Report.ofResult (s.alter c).2 = .quiet ↔ (s.env.change c).isOk = true := by
  unfold alter
  cases s.env.change c with
  | ok env => exact ⟨fun _ => rfl, fun _ => rfl⟩
  | error e => exact ⟨fun h => absurd h (Report.failure_ne_quiet _), fun h => by cases h⟩

namespace Builtin

/-- The outcome keeps the variables and the directory of `s`. -/
structure KeepsPlace (s : Session) (o : Outcome) : Prop where
  env : o.1.env = s.env
  cwd : o.1.cwd = s.cwd

theorem keepsPlace_print {s s' : Session} (henv : s'.env = s.env) (hcwd : s'.cwd = s.cwd)
    (t : Text) : KeepsPlace s (s'.print t) := by
  rw [Session.print_eq]
  exact ⟨henv, hcwd⟩

theorem keepsPlace_alias (args : List Text) (s : Session) :
    KeepsPlace s (AliasVerb.run args s) := by
  rcases AliasVerb.run_cases args with
    hrun | ⟨rest, -, hrun⟩ | ⟨rest, -, hrun⟩ | hrun | ⟨form, hrun⟩ <;> rw [hrun]
  · exact keepsPlace_print rfl rfl _
  · unfold AliasVerb.add
    split
    · exact ⟨rfl, rfl⟩
    · exact keepsPlace_print (by rfl) (by rfl) _
  · cases rest with
    | nil => exact ⟨rfl, rfl⟩
    | cons name _ => exact keepsPlace_print (by rfl) (by rfl) _
  · exact ⟨rfl, rfl⟩
  · exact ⟨rfl, rfl⟩

theorem keepsPlace_ls (args : List Text) (s : Session) : KeepsPlace s (Ls.run args s) := by
  unfold Ls.run
  simp only
  split
  · exact ⟨rfl, rfl⟩
  · split
    · split
      · exact keepsPlace_print rfl rfl _
      · exact ⟨rfl, rfl⟩
    · exact ⟨rfl, rfl⟩

/-- A builtin is `cd` or `var`, or it keeps variables and directory. -/
theorem place_cases {verb : Text} {action : Action} (h : action? verb = some action) :
    (verb = "cd".toList ∧ action = Cd.run) ∨ (verb = "var".toList ∧ action = Var.run) ∨
      verb ≠ "cd".toList ∧ verb ≠ "var".toList ∧ ∀ args s, KeepsPlace s (action args s) := by
  obtain ⟨_, _, htable, -⟩ := List.lookup_eq_some_iff.mp h
  have hmem : (verb, action) ∈ table := by rw [htable]; simp
  simp only [table, List.mem_cons, Prod.mk.injEq, List.not_mem_nil, or_false] at hmem
  rcases hmem with ⟨rfl, rfl⟩ | ⟨rfl, rfl⟩ | ⟨rfl, rfl⟩ | ⟨rfl, rfl⟩ | ⟨rfl, rfl⟩ | ⟨rfl, rfl⟩ |
    ⟨rfl, rfl⟩ | ⟨rfl, rfl⟩
  · exact Or.inr (Or.inr ⟨by decide, by decide, keepsPlace_alias⟩)
  · exact Or.inl ⟨rfl, rfl⟩
  · exact Or.inr (Or.inr ⟨by decide, by decide, fun _ _ => keepsPlace_print rfl rfl _⟩)
  · exact Or.inr (Or.inr ⟨by decide, by decide, fun _ _ => keepsPlace_print rfl rfl _⟩)
  · exact Or.inr (Or.inr ⟨by decide, by decide, fun _ _ => ⟨rfl, rfl⟩⟩)
  · exact Or.inr (Or.inr ⟨by decide, by decide, keepsPlace_ls⟩)
  · exact Or.inr (Or.inr ⟨by decide, by decide, fun _ _ => keepsPlace_print rfl rfl _⟩)
  · exact Or.inr (Or.inl ⟨rfl, rfl⟩)

/-! ### `var` -/

namespace Var

/-- The change that an assignment asks for. -/
def assigned? (args : List Text) : Option Change :=
  (assignment? args).map fun v => .put v.1 v.2

/-- The change that `var` with these arguments asks for. -/
def wanted? (evaluator : Text → Except CalcError Text) : List Text → Option Change
  | [] => none
  | word :: rest =>
    if word = "del".toList then rest.head?.map .drop
    else if word = "match".toList then
      match rest with
      | name :: ['='] :: w :: ws =>
        (evaluator (expression (w :: ws))).toOption.map fun value => .put name value
      | _ => assigned? (word :: rest)
    else assigned? (word :: rest)

/-- `var` makes the change that it asks for, and without one it keeps the variables. -/
structure Makes (wanted : Option Change) (s : Session) (o : Outcome) : Prop where
  made : ∀ c, wanted = some c → o = s.alter c
  kept : wanted = none → KeepsPlace s o

theorem Makes.of_some {c : Change} {s : Session} : Makes (some c) s (s.alter c) :=
  ⟨by rintro _ ⟨⟩; rfl, by rintro ⟨⟩⟩

theorem Makes.of_none {s : Session} {o : Outcome} (h : KeepsPlace s o) : Makes none s o :=
  ⟨by rintro _ ⟨⟩, fun _ => h⟩

theorem Makes.env {wanted : Option Change} {s : Session} {o : Outcome} (h : Makes wanted s o) :
    o.1.env = s.env.altered wanted := by
  cases wanted with
  | none => exact (h.kept rfl).env
  | some c => rw [h.made c rfl, Session.alter_env]

theorem Makes.cwd {wanted : Option Change} {s : Session} {o : Outcome} (h : Makes wanted s o) :
    o.1.cwd = s.cwd := by
  cases wanted with
  | none => exact (h.kept rfl).cwd
  | some c => rw [h.made c rfl, Session.alter_cwd]

theorem makes_assign (args : List Text) (s : Session) :
    Makes (assigned? args) s (assign args s) := by
  unfold assign assigned?
  cases assignment? args with
  | none => exact .of_none ⟨rfl, rfl⟩
  | some v => exact .of_some

theorem makes_compute (name : Text) (words : List Text) (s : Session) :
    Makes ((s.evaluator (expression words)).toOption.map fun value => .put name value) s
      (compute name words s) := by
  unfold compute
  simp only
  split
  · next h => rw [h]; exact .of_some
  · next h => rw [h]; exact .of_none ⟨rfl, rfl⟩

theorem makes_match {word : Text} (hmatch : word = "match".toList) (rest : List Text)
    (s : Session) : Makes (wanted? s.evaluator (word :: rest)) s (run (word :: rest) s) := by
  have hdel : word ≠ "del".toList := by
    rw [hmatch]
    decide
  unfold wanted? run
  by_cases hform : ∃ name w ws, rest = name :: ['='] :: w :: ws
  · obtain ⟨name, w, ws, rfl⟩ := hform
    simp only [if_neg hdel, if_pos hmatch]
    exact makes_compute name (w :: ws) s
  · -- both are then as if `match` were a name
    have hplain : ∀ name w ws, rest ≠ name :: ['='] :: w :: ws := fun name w ws heq =>
      hform ⟨name, w, ws, heq⟩
    simp only [if_neg hdel, if_pos hmatch]
    exact makes_assign _ s

theorem makes_run (args : List Text) (s : Session) :
    Makes (wanted? s.evaluator args) s (run args s) := by
  cases args with
  | nil => exact .of_none (keepsPlace_print rfl rfl _)
  | cons word rest =>
      by_cases hmatch : word = "match".toList
      · exact makes_match hmatch rest s
      · unfold wanted? run
        simp only [if_neg hmatch]
        split
        · cases rest with
          | nil => exact .of_none ⟨rfl, rfl⟩
          | cons name _ => exact .of_some
        · exact makes_assign _ s

end Var

/-! ### `cd` -/

namespace Cd

/-- In the session `s`, `cd` with these arguments leads to the directory `dir`. -/
def LeadsTo (args : List Text) (s : Session) (dir : Text) : Prop :=
  ∃ resolved, s.resolve (target args s.home) = .ok resolved ∧
    s.files.canonical resolved = .ok dir ∧ s.files.isDir dir = true

/-- The change that `cd` with these arguments asks for, if it leads to a directory. -/
def wanted? (args : List Text) (s : Session) : Option Change :=
  match s.resolve (target args s.home) with
  | .error _ => none
  | .ok resolved =>
    match s.files.canonical resolved with
    | .error _ => none
    | .ok dir => if s.files.isDir dir then some (.put workingDir dir) else none

/-- What becomes of a `cd` that asks for a change. -/
inductive Went (args : List Text) (s : Session) : Option Change → Outcome → Prop
  /-- there is no such directory -/
  | nowhere (e : CommandError) : Went args s none (s.fail e)
  /-- there is, but its path can be no value -/
  | refused {dir : Text} {e : EnvError} (leads : LeadsTo args s dir)
      (set : s.env.set workingDir dir = .error e) :
      Went args s (some (.put workingDir dir)) (s.fail (.env e))
  /-- the session goes there, and so does the variable -/
  | there {dir : Text} {env : Environment} (leads : LeadsTo args s dir)
      (set : s.env.set workingDir dir = .ok env) :
      Went args s (some (.put workingDir dir)) { s with env, cwd := dir }.done

theorem Went.env {args : List Text} {s : Session} {wanted : Option Change} {o : Outcome}
    (h : Went args s wanted o) : o.1.env = s.env.altered wanted := by
  cases h with
  | nowhere e => rfl
  | refused leads set => rw [Environment.altered, Environment.change, set]; rfl
  | there leads set => rw [Environment.altered, Environment.change, set]; rfl

theorem Went.quiet {args : List Text} {s : Session} {c : Change} {o : Outcome}
    (h : Went args s (some c) o) : Report.ofResult o.2 = .quiet ↔ (s.env.change c).isOk = true := by
  cases h with
  | refused leads set =>
      rw [Environment.change, set]
      exact ⟨fun h => absurd h (Report.failure_ne_quiet _), fun h => by cases h⟩
  | there leads set =>
      rw [Environment.change, set]
      exact ⟨fun _ => rfl, fun _ => rfl⟩

theorem went_run (args : List Text) (s : Session) : Went args s (wanted? args s) (run args s) := by
  unfold wanted? run
  simp only
  cases hresolve : s.resolve (target args s.home) with
  | error e => exact .nowhere _
  | ok resolved =>
      simp only
      cases hcanonical : s.files.canonical resolved with
      | error e => exact .nowhere _
      | ok dir =>
          simp only
          split
          · next hdir =>
              have hleads : LeadsTo args s dir := ⟨resolved, hresolve, hcanonical, hdir⟩
              cases hset : s.env.set workingDir dir with
              | error e => exact .refused hleads hset
              | ok env => exact .there hleads hset
          · exact .nowhere _

end Cd

end Builtin

/-! ### Turns -/

namespace Dispatch

/-- The change of variables that a command asks for. -/
def wanted? (c : Command) (s : Session) : Option Change :=
  if c.verb = "cd".toList then Builtin.Cd.wanted? c.args s
  else if c.verb = "var".toList then Builtin.Var.wanted? s.evaluator c.args
  else none

section

variable (x : Executor) {c : Command} (s : Session)

theorem route_cd (h : c.verb = "cd".toList) :
    route x c s = (.ofResult (Builtin.Cd.run c.args s).2, (Builtin.Cd.run c.args s).1) :=
  route_builtin x (by rw [h]; rfl) s

theorem route_var (h : c.verb = "var".toList) :
    route x c s = (.ofResult (Builtin.Var.run c.args s).2, (Builtin.Var.run c.args s).1) :=
  route_builtin x (by rw [h]; rfl) s

/-- Every other command keeps variables and directory. -/
theorem route_other (hcd : c.verb ≠ "cd".toList) (hvar : c.verb ≠ "var".toList) :
    (route x c s).2.env = s.env ∧ (route x c s).2.cwd = s.cwd := by
  cases ha : Builtin.action? c.verb with
  | some action =>
      rw [route_builtin x ha]
      obtain ⟨h, -⟩ | ⟨h, -⟩ | ⟨-, -, hkeeps⟩ := Builtin.place_cases ha
      · exact absurd h hcd
      · exact absurd h hvar
      · exact ⟨(hkeeps c.args s).env, (hkeeps c.args s).cwd⟩
  | none =>
      obtain ⟨r, hroute, -⟩ := route_program x ha s
      rw [hroute]
      exact x.spawn_keeps (P := fun s' => s'.env = s.env ∧ s'.cwd = s.cwd) (fun _ _ h => h) c.verb
        c.args ⟨rfl, rfl⟩

/-- **A routed command makes the change that it asks for, and no other.** -/
theorem route_env (c : Command) : (route x c s).2.env = s.env.altered (wanted? c s) := by
  unfold wanted?
  split
  · next hcd =>
      rw [route_cd x s hcd]
      exact (Builtin.Cd.went_run c.args s).env
  · next hcd =>
      split
      · next hvar =>
          rw [route_var x s hvar]
          exact (Builtin.Var.makes_run c.args s).env
      · next hvar => exact (route_other x s hcd hvar).1

/-- Every command but `cd` keeps the directory. -/
theorem route_cwd (hcd : c.verb ≠ "cd".toList) : (route x c s).2.cwd = s.cwd := by
  by_cases hvar : c.verb = "var".toList
  · rw [route_var x s hvar]
    exact (Builtin.Var.makes_run c.args s).cwd
  · exact (route_other x s hcd hvar).2

end

namespace Turn

/-- The change of variables that the turn makes. -/
def change? (t : Turn) : Option Change :=
  (wanted? t.command t.session).filter fun c => (t.session.env.change c).isOk

variable {x : Executor} {t : Turn}

/-- **A turn makes the change that it asks for if it does not fail.** -/
theorem change?_eq_some_iff {c : Change} :
    t.change? = some c ↔ wanted? t.command t.session = some c ∧ (t.outcome x).1 = .quiet := by
  rw [change?, Option.filter_eq_some_iff]
  refine and_congr_right fun hwanted => ?_
  unfold wanted? at hwanted
  split at hwanted
  · next hcd =>
      have hwent := Builtin.Cd.went_run t.command.args t.session
      rw [hwanted] at hwent
      rw [outcome, route_cd x t.session hcd]
      exact hwent.quiet.symm
  · split at hwanted
    · next hvar =>
        have hmade := (Builtin.Var.makes_run t.command.args t.session).made c hwanted
        rw [outcome, route_var x t.session hvar, hmade]
        exact (t.session.alter_quiet c).symm
    · cases hwanted

theorem verb_of_change {c : Change} (h : t.change? = some c) :
    t.command.verb = "cd".toList ∨ t.command.verb = "var".toList := by
  have hwanted := (Option.filter_eq_some_iff.mp h).1
  unfold wanted? at hwanted
  split at hwanted
  · next hcd => exact Or.inl hcd
  · split at hwanted
    · next hvar => exact Or.inr hvar
    · cases hwanted

theorem env_of_change {c : Change} (h : t.change? = some c) :
    t.session.env.change c = .ok (t.left x).env := by
  obtain ⟨hwanted, hok⟩ := Option.filter_eq_some_iff.mp h
  have henv := route_env x t.session t.command
  rw [hwanted, Environment.altered] at henv
  cases hchange : t.session.env.change c with
  | ok env =>
      rw [hchange] at henv
      exact congrArg Except.ok henv.symm
  | error e =>
      rw [hchange] at hok
      cases hok

theorem env_of_none (h : t.change? = none) : (t.left x).env = t.session.env := by
  have henv := route_env x t.session t.command
  cases hwanted : wanted? t.command t.session with
  | none => rwa [hwanted] at henv
  | some c =>
      rw [hwanted, Environment.altered] at henv
      cases hchange : t.session.env.change c with
      | ok env =>
          rw [change?, hwanted, Option.filter_some, hchange] at h
          cases h
      | error e => rwa [hchange] at henv

/-- If no name comes twice, none comes twice afterwards. -/
theorem eachOnce_left (h : t.session.env.EachOnce) : (t.left x).env.EachOnce := by
  cases hc : t.change? with
  | none => rwa [env_of_none hc]
  | some c => exact Environment.eachOnce_of_change (env_of_change hc) h

end Turn

theorem Leads.eachOnce {x : Executor} {s s' : Session} {ts : List Turn} (h : Leads x s ts s')
    (hs : s.env.EachOnce) : s'.env.EachOnce :=
  h.keeps (P := fun s => s.env.EachOnce) (fun _ _ ht => Turn.eachOnce_left ht) hs

end Dispatch

end AliasShell
