/-
What a command leaves alone.

A builtin works on the aliases, the variables, the directory and the output of
its session.  The rest are the session's surroundings: its home, its evaluator,
the files, the input, and all that has to do with programs.  No builtin touches
them, and none complains of replaced aliases, which only the dispatcher counts.
`Contained` says both, `contained_of_action?` proves it of every builtin.  Every
builtin but `alias` keeps the aliases as well: `alias_or_keepsAliases`.

A program is asked for by one request, or by two where an interpreter stands
behind it.  `Asking` lists the ways in which that can go, and `spawn_asking` says
that there are no others, so what every request keeps is kept by a program:
`spawn_keeps_put`.  `AskedFor` says what a request holds of the command it was made
for, and `route_asks` that a routed command makes no others.
-/
import AliasShell.Dispatch

namespace AliasShell

/-- Says that aliases were replaced too often. -/
def CommandError.isLimit : CommandError → Bool
  | .recursionLimit _ _ => true
  | _ => false

@[simp] theorem CommandError.isLimit_ofLaunch (e : LaunchError) :
    (CommandError.ofLaunch e).isLimit = false := by
  cases e <;> rfl

/-- Everything in a session but its aliases, its variables, its directory and its output. -/
structure Surroundings where
  home : Option Text
  evaluator : Text → Except CalcError Text
  files : Files
  input : Bytes
  complaints : Bytes
  requests : List Request

/-- The surroundings of a session. -/
def Session.surroundings (s : Session) : Surroundings where
  home := s.home
  evaluator := s.evaluator
  files := s.files
  input := s.input
  complaints := s.complaints
  requests := s.requests

/-- A write adds to the output, and nothing else happens in the session. -/
theorem Session.print_eq (s : Session) (t : Text) :
    s.print t =
      ({ s with console := (s.console.write t.encode).1 },
        if (s.console.write t.encode).2 then .ok .proceed
        else .error (.io Console.fullReason)) := by
  unfold Session.print Session.write
  rcases s.console.write t.encode with ⟨console, _ | _⟩ <;> rfl

namespace Builtin

/-- The outcome keeps the surroundings of `s`, and if it is a failure, not one of aliases. -/
structure Contained (s : Session) (o : Outcome) : Prop where
  surroundings : o.1.surroundings = s.surroundings
  error : ∀ e, o.2 = .error e → e.isLimit = false

variable {s s' : Session}

/-! ### The ways in which a builtin ends -/

theorem contained_fail {e : CommandError} (he : e.isLimit = false) : Contained s (s.fail e) := by
  refine ⟨rfl, ?_⟩
  rintro e' ⟨⟩
  exact he

theorem contained_done (h : s'.surroundings = s.surroundings) : Contained s s'.done := by
  refine ⟨h, ?_⟩
  rintro e' ⟨⟩

theorem contained_print (h : s'.surroundings = s.surroundings) (t : Text) :
    Contained s (s'.print t) := by
  rw [Session.print_eq]
  refine ⟨h, fun e he => ?_⟩
  simp only at he
  split at he
  · cases he
  · obtain rfl := Except.error.inj he
    rfl

theorem contained_printLines (h : s'.surroundings = s.surroundings) (ls : List Text) :
    Contained s (s'.printLines ls) :=
  contained_print h _

/-- The outcome keeps the aliases of `s` as well. -/
structure KeepsAliases (s : Session) (o : Outcome) : Prop extends Contained s o where
  aliases : o.1.aliases = s.aliases

theorem keepsAliases_fail {e : CommandError} (he : e.isLimit = false) :
    KeepsAliases s (s.fail e) :=
  ⟨contained_fail he, rfl⟩

theorem keepsAliases_print (s : Session) (t : Text) : KeepsAliases s (s.print t) :=
  ⟨contained_print rfl t, by rw [Session.print_eq]⟩

theorem keepsAliases_printLines (s : Session) (ls : List Text) :
    KeepsAliases s (s.printLines ls) :=
  keepsAliases_print s _

theorem keepsAliases_setVar (s : Session) (name value : Text) :
    KeepsAliases s (s.setVar name value) := by
  unfold Session.setVar
  split
  · exact ⟨contained_done rfl, rfl⟩
  · exact keepsAliases_fail rfl

theorem keepsAliases_unsetVar (s : Session) (name : Text) :
    KeepsAliases s (s.unsetVar name) := by
  unfold Session.unsetVar
  split
  · exact ⟨contained_done rfl, rfl⟩
  · exact keepsAliases_fail rfl

/-! ### The forms of `alias` and `var`

The arguments alone decide which of its forms a command has.
-/

theorem AliasVerb.run_cases (args : List Text) :
    (∀ s, AliasVerb.run args s = AliasVerb.list s) ∨
      (∃ rest, args = "add".toList :: rest ∧
        ∀ s, AliasVerb.run args s = AliasVerb.add rest s) ∨
      (∃ rest, args = "del".toList :: rest ∧
        ∀ s, AliasVerb.run args s = AliasVerb.delete rest s) ∨
      (∀ s, AliasVerb.run args s = { s with aliases := .empty }.done) ∨
      ∃ form, ∀ s, AliasVerb.run args s = s.fail (.usage form) := by
  cases args with
  | nil => exact Or.inl fun _ => rfl
  | cons word rest =>
      unfold AliasVerb.run
      by_cases hlist : word = "list".toList
      · exact Or.inl fun s => if_pos hlist
      · by_cases hadd : word = "add".toList
        · exact Or.inr (Or.inl ⟨rest, by rw [hadd], fun s => by simp only [hadd]; rfl⟩)
        · by_cases hdel : word = "del".toList
          · exact Or.inr (Or.inr (Or.inl ⟨rest, by rw [hdel], fun s => by simp only [hdel]; rfl⟩))
          · simp only [hlist, hadd, hdel, if_false]
            by_cases hclear : word = "clear".toList
            · exact Or.inr (Or.inr (Or.inr (Or.inl fun s => if_pos hclear)))
            · exact Or.inr (Or.inr (Or.inr (Or.inr ⟨_, fun s => if_neg hclear⟩)))

theorem Var.run_cases (args : List Text) :
    (∀ s, Var.run args s = Var.list s) ∨ (∃ rest, ∀ s, Var.run args s = Var.delete rest s) ∨
      (∃ name words, ∀ s, Var.run args s = Var.compute name words s) ∨
      ∀ s, Var.run args s = Var.assign args s := by
  cases args with
  | nil => exact Or.inl fun _ => rfl
  | cons word rest =>
      unfold Var.run
      simp only
      split
      · exact Or.inr (Or.inl ⟨rest, fun _ => rfl⟩)
      · split
        · split
          · exact Or.inr (Or.inr (Or.inl ⟨_, _, fun _ => rfl⟩))
          · exact Or.inr (Or.inr (Or.inr fun _ => rfl))
        · exact Or.inr (Or.inr (Or.inr fun _ => rfl))

/-! ### Every builtin -/

theorem contained_alias (args : List Text) (s : Session) :
    Contained s (AliasVerb.run args s) := by
  rcases AliasVerb.run_cases args with
    hrun | ⟨rest, -, hrun⟩ | ⟨rest, -, hrun⟩ | hrun | ⟨form, hrun⟩ <;> rw [hrun]
  · exact contained_printLines rfl _
  · unfold AliasVerb.add
    split
    · exact contained_fail rfl
    · exact contained_printLines (by rfl) _
  · cases rest with
    | nil => exact contained_fail rfl
    | cons name _ => exact contained_printLines (by rfl) _
  · exact contained_done rfl
  · exact contained_fail rfl

theorem keepsAliases_cd (args : List Text) (s : Session) : KeepsAliases s (Cd.run args s) := by
  unfold Cd.run
  simp only
  split
  · exact keepsAliases_fail rfl
  · split
    · exact keepsAliases_fail rfl
    · split
      · split
        · exact ⟨contained_done rfl, rfl⟩
        · exact keepsAliases_fail rfl
      · exact keepsAliases_fail rfl

theorem keepsAliases_ls (args : List Text) (s : Session) : KeepsAliases s (Ls.run args s) := by
  unfold Ls.run
  simp only
  split
  · exact keepsAliases_fail rfl
  · split
    · split
      · exact keepsAliases_printLines s _
      · exact keepsAliases_fail rfl
    · exact keepsAliases_fail rfl

theorem keepsAliases_var (args : List Text) (s : Session) : KeepsAliases s (Var.run args s) := by
  rcases Var.run_cases args with hrun | ⟨rest, hrun⟩ | ⟨name, words, hrun⟩ | hrun <;> rw [hrun]
  · exact keepsAliases_printLines s _
  · cases rest with
    | nil => exact keepsAliases_fail rfl
    | cons name _ => exact keepsAliases_unsetVar s name
  · unfold Var.compute
    simp only
    split
    · exact keepsAliases_setVar s _ _
    · exact keepsAliases_fail rfl
  · unfold Var.assign
    split
    · exact keepsAliases_fail rfl
    · exact keepsAliases_setVar s _ _

/-- What a builtin verb does is one of these. -/
theorem cases_of_action? {verb : Text} {action : Action} (h : action? verb = some action) :
    action = AliasVerb.run ∨ action = Cd.run ∨ action = clearScreen ∨ action = exit ∨
      action = Ls.run ∨ action = Print.run ∨ action = Var.run := by
  obtain ⟨_, _, htable, -⟩ := List.lookup_eq_some_iff.mp h
  have hmem : (verb, action) ∈ table := by rw [htable]; simp
  simp only [table, List.mem_cons, Prod.mk.injEq, List.not_mem_nil, or_false] at hmem
  rcases hmem with ⟨-, h⟩ | ⟨-, h⟩ | ⟨-, h⟩ | ⟨-, h⟩ | ⟨-, h⟩ | ⟨-, h⟩ | ⟨-, h⟩ | ⟨-, h⟩ <;>
    simp only [h, true_or, or_true]

/-- Every builtin but `alias` leaves the aliases alone. -/
theorem alias_or_keepsAliases {verb : Text} {action : Action} (h : action? verb = some action)
    (args : List Text) (s : Session) :
    action = AliasVerb.run ∨ KeepsAliases s (action args s) := by
  rcases cases_of_action? h with h | rfl | rfl | rfl | rfl | rfl | rfl
  · exact Or.inl h
  · exact Or.inr (keepsAliases_cd args s)
  · exact Or.inr (keepsAliases_print s _)
  · refine Or.inr ⟨⟨rfl, ?_⟩, rfl⟩
    rintro e ⟨⟩
  · exact Or.inr (keepsAliases_ls args s)
  · exact Or.inr (keepsAliases_printLines s _)
  · exact Or.inr (keepsAliases_var args s)

/-- **No builtin touches the surroundings or complains of aliases.** -/
theorem contained_of_action? {verb : Text} {action : Action} (h : action? verb = some action)
    (args : List Text) (s : Session) : Contained s (action args s) := by
  rcases alias_or_keepsAliases h args s with rfl | hkeeps
  · exact contained_alias args s
  · exact hkeeps.toContained

end Builtin

/-! ### Requests and answers -/

/-- A request, and what it was answered. -/
abbrev Exchange := Request × Except LaunchError Ending

namespace Session

/-- From `s` to `s'` these requests were put, each one was answered as the session stood then, and
nothing else has happened. -/
inductive Exchanges (l : Launcher) : Session → List Exchange → Session → Prop
  | nil (s : Session) : Exchanges l s [] s
  | cons {s s' : Session} {q : Request} {es : List Exchange}
      (rest : Exchanges l (s.launch l q).1 es s') :
      Exchanges l s ((q, (s.launch l q).2) :: es) s'

namespace Exchanges

variable {l : Launcher} {s s' : Session} {es : List Exchange}

theorem of_launch {q : Request} {answer : Except LaunchError Ending}
    (h : s.launch l q = (s', answer)) : s.Exchanges l [(q, answer)] s' := by
  obtain ⟨rfl, rfl⟩ := Prod.mk.inj h
  exact .cons (.nil _)

theorem of_launch_cons {s₁ : Session} {q : Request} {answer : Except LaunchError Ending}
    (h : s.launch l q = (s₁, answer)) (rest : s₁.Exchanges l es s') :
    s.Exchanges l ((q, answer) :: es) s' := by
  obtain ⟨rfl, rfl⟩ := Prod.mk.inj h
  exact .cons rest

/-- The session remembers the requests. -/
theorem requests (h : s.Exchanges l es s') : s'.requests = s.requests ++ es.map (·.1) := by
  induction h with
  | nil s => exact (List.append_nil _).symm
  | @cons s s' q es _ ih =>
      rw [ih, List.map_cons]
      show s.requests ++ [q] ++ es.map (·.1) = s.requests ++ q :: es.map (·.1)
      rw [List.append_assoc, List.singleton_append]

/-- What each of the requests keeps is kept. -/
theorem keeps {P : Session → Prop} (h : s.Exchanges l es s')
    (hkeeps : ∀ e ∈ es, ∀ t : Session, P t → P (t.launch l e.1).1) (hs : P s) : P s' := by
  induction h with
  | nil s => exact hs
  | cons _ ih =>
      exact ih (fun e he => hkeeps e (List.mem_cons_of_mem _ he)) (hkeeps _ List.mem_cons_self _ hs)

end Exchanges

end Session

/-! ### The requests that commands make -/

namespace Executor

/-- `q` is a request for `c` in a session with this home: for `c` itself, or for the interpreter of
`x` with all of `c` in one argument. -/
inductive AskedFor (x : Executor) (home : Option Text) (c : Command) : Request → Prop
  | itself {q : Request} (program : q.program = c.verb)
      (args : q.args = c.args.map (Path.expandArg home)) : AskedFor x home c q
  | interpreter {q : Request} {f : Fallback} (fallback : x.fallback = some f)
      (program : q.program = f.program)
      (args : q.args = [f.flag, Text.unwords (c.verb :: c.args.map (Path.expandArg home))]) :
      AskedFor x home c q

/-- On the way from `s` to `s'` the home stayed, and every request was for one of `cs`. -/
structure Asks (x : Executor) (cs : List Command) (s s' : Session) : Prop where
  home : s'.home = s.home
  requests : ∃ new, s'.requests = s.requests ++ new ∧
    ∀ q ∈ new, ∃ c ∈ cs, x.AskedFor s.home c q

namespace Asks

variable {x : Executor} {cs ds : List Command} {s s' s'' : Session}

theorem of_surroundings (h : s'.surroundings = s.surroundings) : x.Asks cs s s' :=
  ⟨congrArg Surroundings.home h, [],
    by rw [List.append_nil]; exact congrArg Surroundings.requests h, by simp⟩

theorem launch (h : x.Asks cs s s') {q : Request} {c : Command} (hc : c ∈ cs)
    (hq : x.AskedFor s.home c q) (l : Launcher) : x.Asks cs s (s'.launch l q).1 := by
  obtain ⟨new, hnew, hfor⟩ := h.requests
  refine ⟨h.home, new ++ [q], ?_, ?_⟩
  · show s'.requests ++ [q] = s.requests ++ (new ++ [q])
    rw [hnew, List.append_assoc]
  · intro r hr
    rcases List.mem_append.mp hr with hr | hr
    · exact hfor r hr
    · rw [List.mem_singleton.mp hr]
      exact ⟨c, hc, hq⟩

theorem append (h : x.Asks cs s s') (h' : x.Asks ds s' s'') : x.Asks (cs ++ ds) s s'' := by
  obtain ⟨new, hnew, hfor⟩ := h.requests
  obtain ⟨new', hnew', hfor'⟩ := h'.requests
  refine ⟨h'.home.trans h.home, new ++ new', by rw [hnew', hnew, List.append_assoc], ?_⟩
  intro q hq
  rcases List.mem_append.mp hq with hq | hq
  · obtain ⟨c, hc, ha⟩ := hfor q hq
    exact ⟨c, List.mem_append_left ds hc, ha⟩
  · obtain ⟨c, hc, ha⟩ := hfor' q hq
    rw [h.home] at ha
    exact ⟨c, List.mem_append_right cs hc, ha⟩

end Asks

/-- What is asked when `q` is the request for a program, and what comes of it. -/
inductive Asking (x : Executor) (q : Request) : List Exchange → Except LaunchError Unit → Prop
  /-- it was started, however it ended -/
  | started (ending : Ending) : Asking x q [(q, .ok ending)] (.ok ())
  /-- it is there and cannot be started -/
  | failed (p reason : Text) :
      Asking x q [(q, .error (.failed p reason))] (.error (.failed p reason))
  /-- it is not there, and there is no interpreter to ask -/
  | missing (p : Text) (fallback : x.fallback = none) :
      Asking x q [(q, .error (.notFound p))] (.error (.notFound q.program))
  /-- it is not there, and the interpreter was started -/
  | interpreted (p : Text) {f : Fallback} (ending : Ending) (fallback : x.fallback = some f) :
      Asking x q [(q, .error (.notFound p)), (retry f q, .ok ending)] (.ok ())
  /-- it is not there, and the interpreter was not started either -/
  | refused (p : Text) {f : Fallback} (e : LaunchError) (fallback : x.fallback = some f) :
      Asking x q [(q, .error (.notFound p)), (retry f q, .error e)]
        (.error (.notFound q.program))

/-- **Asking for a program goes one of these ways.** -/
theorem spawn_asking (x : Executor) (program : Text) (args : List Text) (s : Session) :
    ∃ es, s.Exchanges x.launcher es (x.spawn program args s).1 ∧
      x.Asking (request s program args) es (x.spawn program args s).2 := by
  unfold spawn
  simp only
  rcases h₁ : s.launch x.launcher (request s program args) with
    ⟨s₁, (p | ⟨p, reason⟩) | ending⟩
  · simp only
    cases hf : x.fallback with
    | none => exact ⟨_, .of_launch h₁, .missing p hf⟩
    | some f =>
        simp only
        rcases h₂ : s₁.launch x.launcher (retry f (request s program args)) with
          ⟨s₂, e | ending⟩
        · exact ⟨_, .of_launch_cons h₁ (.of_launch h₂), .refused p e hf⟩
        · exact ⟨_, .of_launch_cons h₁ (.of_launch h₂), .interpreted p ending hf⟩
  · exact ⟨_, .of_launch h₁, .failed p reason⟩
  · exact ⟨_, .of_launch h₁, .started ending⟩

/-- The requests that can be made for a program: for itself, and for the interpreter behind it. -/
def Puts (x : Executor) (s : Session) (program : Text) (args : List Text) (q : Request) : Prop :=
  q = request s program args ∨
    ∃ f, x.fallback = some f ∧ q = retry f (request s program args)

theorem Asking.puts {x : Executor} {s : Session} {program : Text} {args : List Text}
    {es : List Exchange} {result : Except LaunchError Unit}
    (h : x.Asking (request s program args) es result) : ∀ e ∈ es, x.Puts s program args e.1 := by
  cases h with
  | started _ => simp [Puts]
  | failed _ _ => simp [Puts]
  | missing _ _ => simp [Puts]
  | interpreted _ _ fallback => simp [Puts, fallback]
  | refused _ _ fallback => simp [Puts, fallback]

/-- What these requests keep is kept by the program. -/
theorem spawn_keeps_put {P : Session → Prop} (x : Executor) {program : Text} {args : List Text}
    {s : Session} (h : ∀ q s', x.Puts s program args q → P s' → P (s'.launch x.launcher q).1)
    (hs : P s) : P (x.spawn program args s).1 := by
  obtain ⟨es, hexchanges, hasking⟩ := x.spawn_asking program args s
  exact hexchanges.keeps (fun e he s' => h e.1 s' (hasking.puts e he)) hs

/-- What every launch keeps is kept by a program. -/
theorem spawn_keeps {P : Session → Prop} (x : Executor)
    (h : ∀ q s, P s → P (s.launch x.launcher q).1) (program : Text) (args : List Text)
    {s : Session} (hs : P s) : P (x.spawn program args s).1 :=
  x.spawn_keeps_put (fun q s' _ => h q s') hs

theorem spawn_asks (x : Executor) (c : Command) (s : Session) :
    x.Asks [c] s (x.spawn c.verb c.args s).1 := by
  refine x.spawn_keeps_put (P := x.Asks [c] s) (fun q s' hq hs' => ?_) (.of_surroundings rfl)
  refine hs'.launch (List.mem_singleton_self c) ?_ x.launcher
  rcases hq with rfl | ⟨f, hf, rfl⟩
  · exact .itself rfl rfl
  · exact .interpreter hf rfl rfl

end Executor

namespace Dispatch

/-- Routing a builtin verb does what the builtin does. -/
theorem route_builtin (x : Executor) {c : Command} {action : Action}
    (h : Builtin.action? c.verb = some action) (s : Session) :
    route x c s = (.ofResult (action c.args s).2, (action c.args s).1) := by
  unfold route
  rw [h]

/-- Routing any other verb starts a program, and fails if that does. -/
theorem route_program (x : Executor) {c : Command} (h : Builtin.action? c.verb = none)
    (s : Session) :
    ∃ r, route x c s = (r, (x.spawn c.verb c.args s).1) ∧
      (r = .quiet ∨ ∃ e, r = .failure (.ofLaunch e)) := by
  unfold route
  rw [h]
  simp only
  rcases x.spawn c.verb c.args s with ⟨s', e | _⟩
  · exact ⟨_, rfl, Or.inr ⟨e, rfl⟩⟩
  · exact ⟨_, rfl, Or.inl rfl⟩

/-- **A routed command makes no requests but its own.** -/
theorem route_asks (x : Executor) (c : Command) (s : Session) :
    x.Asks [c] s (route x c s).2 := by
  cases ha : Builtin.action? c.verb with
  | some action =>
      rw [route_builtin x ha]
      exact .of_surroundings (Builtin.contained_of_action? ha c.args s).surroundings
  | none =>
      obtain ⟨r, hroute, -⟩ := route_program x ha s
      rw [hroute]
      exact x.spawn_asks c s

/-- A routed command reports one failure at most, and none of aliases. -/
theorem route_errors (x : Executor) (c : Command) (s : Session) :
    (route x c s).1.errors.length ≤ 1 ∧ ∀ e ∈ (route x c s).1.errors, e.isLimit = false := by
  cases ha : Builtin.action? c.verb with
  | some action =>
      have herr := (Builtin.contained_of_action? ha c.args s).error
      rw [route_builtin x ha]
      rcases hact : action c.args s with ⟨s₁, e | (_ | code)⟩ <;> rw [hact] at herr
      · simpa [Report.ofResult, Report.failure] using herr e rfl
      · simp [Report.ofResult, Report.quiet]
      · simp [Report.ofResult]
  | none =>
      obtain ⟨r, hroute, hr⟩ := route_program x ha s
      rw [hroute]
      rcases hr with rfl | ⟨e, rfl⟩
      · simp [Report.quiet]
      · simp [Report.failure]

end Dispatch

end AliasShell
