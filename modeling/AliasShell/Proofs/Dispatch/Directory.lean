/-
The directory and its variable.

`cd` is the one command that changes the directory of a session, and it puts the path of
the directory under `PWD` as well: `Moved`.  Once it has done so, the two say the same
until a `var` sets or removes `PWD`, whatever is run in between and whatever fails.
`Turn.follows_left` is this for one turn.

So the programs that are started find their directory under `PWD`, since a request takes
both from the session: `directory_follows`.
-/
import AliasShell.Launch.Scripted
import AliasShell.Proofs.Canonical
import AliasShell.Proofs.Dispatch.Variables
import AliasShell.Proofs.Paths

namespace AliasShell

open Builtin

namespace Dispatch

/-- What `cd` with these arguments leaves of the session `s`, and what it reports. -/
inductive Moved (args : List Text) (s : Session) : Report × Session → Prop
  /-- nothing happens, and there is a failure -/
  | stays (e : CommandError) : Moved args s (.failure e, s)
  /-- the session goes to a directory by its canonical path, and puts this under `PWD` -/
  | goes {dir : Text} {env : Environment} (leads : Cd.LeadsTo args s dir)
      (absolute : Path.isAbsolute dir = true)
      (canonical : Path.isAbsolute s.cwd = true → s.files.canonical dir = .ok dir)
      (set : s.env.set Cd.workingDir dir = .ok env) (setTo : s.env.SetTo Cd.workingDir dir env) :
      Moved args s (.quiet, { s with env, cwd := dir })

/-- `PWD` holds the directory of the session. -/
def Follows (s : Session) : Prop := s.env.bytes? Cd.workingDir = some s.cwd.encode

theorem Follows.get? {s : Session} (h : Follows s) : s.env.get? Cd.workingDir = some s.cwd := by
  rw [Environment.get?_eq (by decide), h]
  exact Text.decode?_encode s.cwd

namespace Moved

variable {args : List Text} {s : Session} {o : Report × Session}

theorem same (h : Moved args s o) (hfails : o.1 ≠ .quiet) : o.2 = s := by
  cases h with
  | stays e => rfl
  | goes => exact absurd rfl hfails

/-- An absolute directory stays one. -/
theorem isAbsolute (h : Moved args s o) (hs : Path.isAbsolute s.cwd = true) :
    Path.isAbsolute o.2.cwd = true := by
  cases h with
  | stays e => exact hs
  | goes leads absolute => exact absolute

theorem follows (h : Moved args s o) (hquiet : o.1 = .quiet) : Follows o.2 := by
  cases h with
  | stays e => exact absurd hquiet (Report.failure_ne_quiet e)
  | goes leads absolute canonical set =>
      exact (Environment.bytes?_of_set set (by decide)).trans (if_pos rfl)

end Moved

theorem moved_of_went {args : List Text} {s : Session} {wanted : Option Environment.Change}
    {o : Outcome} (h : Cd.Went args s wanted o) : Moved args s (.ofResult o.2, o.1) := by
  cases h with
  | nowhere e => exact .stays e
  | refused leads set => exact .stays _
  | @there dir env leads set =>
      have hvalue : Environment.ValidValue dir := (Environment.set_cases set).2.1
      obtain ⟨resolved, hresolve, hcanonical, hdir⟩ := leads
      refine .goes ⟨resolved, hresolve, hcanonical, hdir⟩ (Files.isAbsolute_canonical hcanonical)
        (fun hs => ?_) set (Environment.setTo_of_set set)
      exact Files.canonical_canonical (Session.isAbsolute_resolve hs hresolve) hcanonical hvalue

theorem isAbsolute_route (x : Executor) (c : Command) {s : Session}
    (hs : Path.isAbsolute s.cwd = true) : Path.isAbsolute (route x c s).2.cwd = true := by
  by_cases hcd : c.verb = "cd".toList
  · rw [route_cd x s hcd]
    exact (moved_of_went (Cd.went_run c.args s)).isAbsolute hs
  · rw [route_cwd x s hcd]
    exact hs

namespace Turn

variable {x : Executor} {t : Turn}

/-- **`cd` goes to a directory and takes its variable along, or it fails and stays.** -/
theorem moved (hcd : t.command.verb = "cd".toList) :
    Moved t.command.args t.session (t.outcome x) := by
  have hroute : t.outcome x = (.ofResult (Cd.run t.command.args t.session).2,
      (Cd.run t.command.args t.session).1) := route_cd x t.session hcd
  rw [hroute]
  exact moved_of_went (Cd.went_run t.command.args t.session)

/-- The turn is a `cd` that does not fail. -/
def Goes (x : Executor) (t : Turn) : Prop :=
  t.command.verb = "cd".toList ∧ (t.outcome x).1 = .quiet

instance (x : Executor) (t : Turn) : Decidable (t.Goes x) :=
  inferInstanceAs (Decidable (_ ∧ _))

/-- Only such a turn changes the directory. -/
theorem cwd_left (h : ¬ t.Goes x) : (t.left x).cwd = t.session.cwd := by
  by_cases hcd : t.command.verb = "cd".toList
  · exact congrArg Session.cwd ((t.moved hcd).same fun hquiet => h ⟨hcd, hquiet⟩)
  · exact route_cwd x t.session hcd

/-- The turn is a `var` that sets or removes `PWD`. -/
def Renames (t : Turn) : Prop :=
  t.command.verb = "var".toList ∧ ∃ c ∈ t.change?, c.name = Cd.workingDir

instance (t : Turn) : Decidable t.Renames := inferInstanceAs (Decidable (_ ∧ _))

/-- **If `PWD` holds the directory, it does so after a turn**, unless that sets or removes it. -/
theorem follows_left (h : Follows t.session) (hkeeps : ¬ t.Renames) : Follows (t.left x) := by
  by_cases hgoes : t.Goes x
  · exact (t.moved hgoes.1).follows hgoes.2
  · rw [Follows, cwd_left hgoes]
    cases hc : t.change? with
    | none => rwa [env_of_none hc]
    | some c =>
        rcases verb_of_change hc with hcd | hvar
        · have hsame : t.left x = t.session :=
            (t.moved hcd).same fun hquiet => hgoes ⟨hcd, hquiet⟩
          rwa [hsame]
        · have hname : Cd.workingDir ≠ c.name := fun heq => hkeeps ⟨hvar, c, hc, heq.symm⟩
          rw [Environment.bytes?_of_change (env_of_change hc) (by decide), if_neg hname]
          exact h

end Turn

/-- The requests of a session whose directory `PWD` holds, carry the directory and this variable;
no other value is there, if the session has each name once. -/
theorem Follows.carried {x : Executor} {t : Turn} (h : Follows t.session) {q : Request}
    (hq : q ∈ t.requests x) :
    q.cwd = t.session.cwd ∧ (Cd.workingDir.encode, q.cwd.encode) ∈ q.env ∧
      (t.session.env.EachOnce → ∀ b, (Cd.workingDir.encode, b) ∈ q.env → b = q.cwd.encode) := by
  obtain ⟨hcwd, henv⟩ := t.carried q hq
  have hmem : (Cd.workingDir.encode, t.session.cwd.encode) ∈ t.session.env.snapshot :=
    Environment.mem_snapshot_of_bytes? (by decide) h
  rw [hcwd, henv]
  exact ⟨rfl, hmem, fun hs b hb => value_unique_of_nodup hs hb hmem⟩

theorem Leads.follows {x : Executor} {s s' : Session} {ts : List Turn} (h : Leads x s ts s')
    (hs : Follows s) (hts : ∀ t ∈ ts, ¬ t.Renames) : Follows s' :=
  h.keeps (P := Follows) (fun t ht hfollows => t.follows_left hfollows (hts t ht)) hs

/-- **The directory and `PWD` go together.**  In a run of lines it takes a `cd` that succeeds to
change the directory, and every `cd` changes both or nothing.  From the first one that succeeds on,
as long as no `var` sets or removes `PWD`, the variable holds the directory after every turn, and
whatever is started finds both of them alike. -/
theorem directory_follows (x : Executor) (lines : List Text) (s : Session) :
    Leads x s (history x lines s) (after x lines s) ∧
    (after x lines s).requests = s.requests ++ (history x lines s).flatMap (·.requests x) ∧
    (∀ t ∈ history x lines s, (¬ t.Goes x → (t.left x).cwd = t.session.cwd) ∧
      (t.command.verb = "cd".toList → Moved t.command.args t.session (t.outcome x))) ∧
    ∀ (front : List Turn) (d : Turn) (ran later : List Turn),
      history x lines s = front ++ d :: (ran ++ later) → d.Goes x → (∀ t ∈ ran, ¬ t.Renames) →
        (d.left x).env.get? Cd.workingDir = some (d.left x).cwd ∧
        ∀ t ∈ ran, (t.left x).env.get? Cd.workingDir = some (t.left x).cwd ∧
          ∀ q ∈ t.requests x, q.cwd = t.session.cwd ∧
            (Cd.workingDir.encode, q.cwd.encode) ∈ q.env ∧
            (s.env.EachOnce → ∀ b, (Cd.workingDir.encode, b) ∈ q.env → b = q.cwd.encode) := by
  have hleads := leads_history (x := x) lines s
  refine ⟨hleads, hleads.requests, fun t _ => ⟨Turn.cwd_left, Turn.moved⟩, ?_⟩
  intro front d ran later hsplit hgoes hkeeps
  rw [hsplit] at hleads
  have hd : Follows (d.left x) := (d.moved hgoes.1).follows hgoes.2
  refine ⟨hd.get?, fun t ht => ?_⟩
  obtain ⟨before, behind, rfl⟩ := List.append_of_mem ht
  obtain ⟨hfront, hrest⟩ := hleads.session
  rw [List.append_assoc, List.cons_append] at hrest
  have hbefore : Leads x (d.left x) before t.session := hrest.session.1
  have ht : Follows t.session :=
    hbefore.follows hd fun u hu => hkeeps u (List.mem_append_left _ hu)
  refine ⟨(t.follows_left ht (hkeeps t (by simp))).get?, fun q hq => ?_⟩
  obtain ⟨hcwd, hmem, hunique⟩ := ht.carried hq
  refine ⟨hcwd, hmem, fun hs => hunique ?_⟩
  exact hbefore.eachOnce ((d.eachOnce_left) (hfront.eachOnce hs))

/-- Through an alias into a directory, and programs from there, with failures in between. -/
theorem directory_follows_alias :
    let x : Executor := ⟨Scripted.launcher ⟨["nope"], [], [], []⟩, some ⟨"sh", "-c"⟩⟩
    let s : Session := { Session.fresh "/" with
      files := { nodes := [(["d".toList], .ofDir 0)], current := [] } }
    let lines : List Text := ["alias add g=cd", "g d; run; cd /no; var X=1; nope a"]
    (history x lines s).length = 6 ∧
      (∀ t ∈ (history x lines s).drop 2,
        (t.left x).env.get? Cd.workingDir = some (t.left x).cwd) ∧
      (after x lines s).requests.map (·.program) = ["run", "nope", "sh"] ∧
      (after x lines s).requests.map (·.cwd) = ["/d", "/d", "/d"] := by
  intro x s lines
  refine ⟨by decide +kernel, ?_, by decide +kernel, by decide +kernel⟩
  have hlength : (history x lines s).length = 6 := by decide +kernel
  have hgoes : ∀ d ∈ (history x lines s)[1]?, d.Goes x := by decide +kernel
  have hkeeps : ∀ t ∈ (history x lines s).drop 2, ¬ t.Renames := by decide +kernel
  have hall := (directory_follows x lines s).2.2.2
  generalize history x lines s = ts at hlength hgoes hkeeps hall ⊢
  rcases ts with _ | ⟨first, _ | ⟨d, ran⟩⟩
  · cases hlength
  · cases hlength
  · exact fun t ht => ((hall [first] d ran [] (by simp) (hgoes d rfl) hkeeps).2 t ht).1

end Dispatch

end AliasShell
