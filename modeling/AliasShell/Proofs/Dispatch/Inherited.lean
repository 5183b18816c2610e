/-
What programs inherit.

A request carries the variables of the session as the turn that makes it finds them.
These are the first ones with the changes of all turns before, one after another, and
nothing else happens to them: `Leads.holds`.  So what a program inherits at any point of a
run can be told from the entries at the beginning and the changes so far:
`programs_inherit`.

Entries that are no text are among them.  They are not listed and no value of theirs is
found, but no change can name them unless their name is text, and so they go to every
program as they are.

A process may have been started with one name twice.  Nobody puts such entries together,
so a program inherits both: `programs_inherit_doubled`.  That each name comes once is
therefore said of sessions that began so.
-/
import AliasShell.Launch.Scripted
import AliasShell.Proofs.Dispatch.Variables

namespace AliasShell

open Environment (Change)

namespace Dispatch

/-- The changes that turns make. -/
def changes (ts : List Turn) : List Change := ts.filterMap Turn.change?

/-- **Turns make their changes and no others.** -/
theorem Leads.holds {x : Executor} {s s' : Session} {ts : List Turn} (h : Leads x s ts s')
    {vs : List (Bytes × Bytes)} (hs : s.env.Holds vs) :
    s'.env.Holds (Change.overridden (changes ts) vs) := by
  induction h generalizing vs with
  | nil s => exact hs
  | @cons t ts s' rest ih =>
      cases hc : t.change? with
      | none =>
          rw [changes, List.filterMap_cons_none hc]
          exact ih (by rwa [Turn.env_of_none hc])
      | some c =>
          rw [changes, List.filterMap_cons_some hc]
          exact ih (hs.change (Turn.env_of_change hc))

/-- A program changes no variables. -/
theorem Turn.env_of_program {x : Executor} {t : Turn}
    (h : Builtin.action? t.command.verb = none) : (t.left x).env = t.session.env := by
  have hverb : ∀ verb : Text, (Builtin.action? verb).isSome = true → t.command.verb ≠ verb := by
    rintro verb hsome rfl
    rw [h] at hsome
    cases hsome
  exact (route_other x t.session (hverb "cd" rfl) (hverb "var" rfl)).1

/-- **Programs inherit exactly the variables of their moment.**  Whatever is asked for in a turn, be
it the program or the interpreter behind it, is asked for with the entries that the session began
with and the changes of the turns before, sorted.  No name comes twice if none did at the beginning,
and none does among variables of the session's own. -/
theorem programs_inherit (x : Executor) (lines : List Text) (s : Session) :
    Leads x s (history x lines s) (after x lines s) ∧
    (after x lines s).requests = s.requests ++ (history x lines s).flatMap (·.requests x) ∧
    (∀ e, s.env = .sorted e → s.env.EachOnce) ∧
    (∀ t ∈ history x lines s,
      (∀ c, t.change? = some c ↔
        wanted? t.command t.session = some c ∧ (t.outcome x).1 = .quiet) ∧
      (Builtin.action? t.command.verb = none → (t.left x).env = t.session.env)) ∧
    ∀ (done : List Turn) (t : Turn) (later : List Turn), history x lines s = done ++ t :: later →
      ∀ q ∈ t.requests x,
        q.env = t.session.env.snapshot ∧
        q.env = (Change.overridden (changes done) s.env.entries).mergeSort
          (ProcessEnv.pairLe Bytes.le) ∧
        (s.env.EachOnce → q.env.Pairwise fun v w => v.1 < w.1) ∧
        (∀ v : Bytes × Bytes, (∀ c ∈ changes done, v.1 ≠ c.name.encode) →
          (v ∈ q.env ↔ v ∈ s.env.snapshot)) ∧
        t.session.env.list.Perm (q.env.filterMap ProcessEnv.asText?) ∧
        (s.env.EachOnce → ∀ name b, (name.encode, b) ∈ q.env → Bytes.decode? b = none →
          t.session.env.get? name = none) := by
  have hleads := leads_history (x := x) lines s
  refine ⟨hleads, hleads.requests, fun e he => he ▸ Environment.eachOnce_sorted e,
    fun t _ => ⟨fun c => Turn.change?_eq_some_iff, Turn.env_of_program⟩, ?_⟩
  intro done t later hsplit q hq
  rw [hsplit] at hleads
  have hdone : Leads x s done t.session := hleads.session.1
  have hholds : t.session.env.Holds (Change.overridden (changes done) s.env.entries) :=
    hdone.holds s.env.holds_entries
  rw [(t.carried q hq).2]
  refine ⟨rfl, hholds.snapshot, fun hs => Environment.ascending_snapshot (hdone.eachOnce hs),
    fun v hv => ?_, Environment.list_perm _, fun hs name b => ?_⟩
  · rw [hholds.perm.mem_iff, Change.mem_overridden hv, s.env.holds_entries.perm.mem_iff]
  · exact Environment.get?_of_decode?_eq_none (hdone.eachOnce hs)

/-- A value that is no text goes through an alias, a change, a program and an interpreter. -/
theorem programs_inherit_undecoded :
    let x : Executor := ⟨Scripted.launcher ⟨["nope"], [], [], []⟩, some ⟨"sh", "-c"⟩⟩
    let s : Session := { Session.fresh "/" with
      env := .process ⟨[Text.encode "A=" ++ [255], Text.encode "B=1"]⟩ }
    let lines : List Text := ["alias add v=var", "run; v B=2; run", "var del B; nope; v C=3"]
    (∀ q ∈ (after x lines s).requests,
        (Text.encode "A", [255]) ∈ q.env ∧ q.env.Pairwise fun v w => v.1 < w.1) ∧
      (after x lines s).requests.map (·.program) = ["run", "run", "nope", "sh"] ∧
      changes (history x lines s) = [.put "B" "2", .drop "B", .put "C" "3"] := by
  intro x s lines
  have hchanges : changes (history x lines s) = [.put "B" "2", .drop "B", .put "C" "3"] := by
    decide +kernel
  have honce : s.env.EachOnce := ((List.mergeSort_perm _ _).map Prod.fst).nodup_iff.mpr (by decide)
  refine ⟨fun q hq => ?_, by decide +kernel, hchanges⟩
  obtain ⟨-, hrequests, -, -, hall⟩ := programs_inherit x lines s
  rw [hrequests] at hq
  obtain ⟨t, ht, hq⟩ := List.mem_flatMap.mp hq
  obtain ⟨done, later, hsplit⟩ := List.append_of_mem ht
  have hnames : ∀ c ∈ changes done, Text.encode "A" ≠ c.name.encode := by
    intro c hc
    have hmem : c ∈ changes (history x lines s) := by
      rw [hsplit, changes, List.filterMap_append]
      exact List.mem_append_left _ hc
    have hall : ∀ c ∈ changes (history x lines s), Text.encode "A" ≠ c.name.encode := by
      rw [hchanges]
      decide
    exact hall c hmem
  obtain ⟨-, -, hascending, hkept, -, -⟩ := hall done t later hsplit q hq
  exact ⟨(hkept _ hnames).mpr (List.mem_mergeSort.mpr (by decide)), hascending honce⟩

/-- One name twice goes to a program twice.  If the second entry is no text, the first one is found
in its place. -/
theorem programs_inherit_doubled :
    let x : Executor := ⟨Scripted.launcher ⟨[], [], [], []⟩, none⟩
    let s (b : Bytes) : Session := { Session.fresh "/" with
      env := .process ⟨[Text.encode "A=1", Text.encode "A=" ++ b]⟩ }
    (after x ["run"] (s (Text.encode "2"))).requests.map (·.env) =
        [[(Text.encode "A", Text.encode "1"), (Text.encode "A", Text.encode "2")]] ∧
      (after x ["run"] (s [255])).requests.map (·.env) =
        [[(Text.encode "A", Text.encode "1"), (Text.encode "A", [255])]] ∧
      (s [255]).env.get? "A" = some "1".toList := by
  intro x s
  have hrun : ∀ b, (after x ["run"] (s b)).requests.map (·.env) = [(s b).env.snapshot] :=
    fun b => rfl
  rw [hrun, hrun]
  refine ⟨congrArg (fun vs => [vs]) ?_, congrArg (fun vs => [vs]) ?_, by decide⟩
  · exact List.mergeSort_of_pairwise (by decide)
  · exact List.mergeSort_of_pairwise (by decide)

end Dispatch

end AliasShell
