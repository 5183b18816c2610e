/-
The dispatcher on tokens.

`runText` goes back to text at every replacement: the words are joined, the text
of the alias is put in front, and the whole is cut again.  `runLists` never does.
It works on lists of tokens, and replaces the first token of a list by the pieces
of the alias's text, with the other tokens behind the last piece.

`run_refines` says that nobody can tell the two apart, but for the text that a
failure of the limit quotes; the one on tokens has no text and quotes nothing.
That no token is lost, merged or split on the way is `tokenLists_withVerb`, and
what is left is an induction on the replacements that remain.
-/
import AliasShell.Launch.Scripted
import AliasShell.Proofs.Dispatch.Replay

namespace AliasShell

/-- The failure without the text it quotes, if it is one of the limit. -/
def CommandError.unquoted : CommandError → CommandError
  | .recursionLimit _ limit => .recursionLimit [] limit
  | e => e

theorem CommandError.unquoted_eq_self {e : CommandError} (h : e.isLimit = false) :
    e.unquoted = e := by
  cases e with
  | recursionLimit => cases h
  | _ => rfl

namespace Report

/-- The report without the texts that failures of the limit quote. -/
def unquoted (r : Report) : Report := ⟨r.errors.map CommandError.unquoted, r.exit⟩

theorem unquoted_rewords : Rewords unquoted where
  quiet := rfl
  append a b := by simp [unquoted, append]
  exit _ := rfl

theorem unquoted_eq_self {r : Report} (h : r.WithinLimit) : r.unquoted = r := by
  have herrors : r.errors.map CommandError.unquoted = r.errors.map id :=
    List.map_congr_left fun e he => CommandError.unquoted_eq_self (h e he)
  rw [unquoted, herrors, List.map_id]

end Report

namespace TokenLevel

open Dispatch

/-- What a replacement makes of a command: the words of its pieces, the arguments behind the last
one, and of these lists the ones that hold something. -/
def substitute (replacement : Text) (args : List Text) : List (List Text) :=
  Command.dropEmpty (Text.appendLast args (Command.pieces replacement))

/-- Runs one list: what replaces it, or the command that it is. -/
def list (x : Executor) (again : List (List Text) → Session → Report × Session) :
    List Text → Session → Report × Session
  | [], s => (.quiet, s)
  | verb :: args, s =>
    match s.aliases.get? verb with
    | some replacement => again (substitute replacement args) s
    | none => route x ⟨verb, args⟩ s

/-- Runs lists of tokens that may still be reached through `left - 1` more replacements. -/
def runLists (x : Executor) : Nat → List (List Text) → Session → Report × Session
  | 0, _, s => (.failure (.recursionLimit [] aliasLimit), s)
  | left + 1, lists, s => sequence (list x (runLists x left)) lists s

/-- Runs the lists of a line. -/
def run (x : Executor) (lists : List (List Text)) (s : Session) : Report × Session :=
  runLists x (aliasLimit + 1) lists s

/-- The commands that one list routes: those of what replaces it, or itself. -/
def listRouted (again : List (List Text) → Session → List Command) :
    List Text → Session → List Command
  | [], _ => []
  | verb :: args, s =>
    match s.aliases.get? verb with
    | some replacement => again (substitute replacement args) s
    | none => [⟨verb, args⟩]

/-- The commands that lists of tokens route, in order. -/
def routedLists (x : Executor) : Nat → List (List Text) → Session → List Command
  | 0, _, _ => []
  | left + 1, lists, s =>
    collect (list x (runLists x left)) (listRouted (routedLists x left)) lists s

/-- The commands that the lists of a line route, in order. -/
def routedBy (x : Executor) (lists : List (List Text)) (s : Session) : List Command :=
  routedLists x (aliasLimit + 1) lists s

/-! ### Lists of tokens do what texts do -/

/-- One list does what its command does, if that holds of what replaces it. -/
theorem list_toWords {x : Executor} {left : Nat} (h : ∀ t s, runLists x left (tokenLists t) s =
      ((runText x left t s).1.unquoted, (runText x left t s).2))
    {c : Command} (hargs : ∀ w ∈ c.args, IsToken w) (s : Session) :
    list x (runLists x left) c.toWords s =
      ((command x left c s).1.unquoted, (command x left c s).2) := by
  cases ha : s.aliases.get? c.verb with
  | some r =>
      simp only [Command.toWords, list, ha]
      rw [command_alias ha, substitute, ← tokenLists_withVerb hargs, h]
  | none =>
      simp only [Command.toWords, list, ha]
      rw [command_route ha, Report.unquoted_eq_self (route_errors x c s).2]

/-- The lists of a text run as the text does, but for what failures of the limit quote. -/
theorem runLists_tokenLists (x : Executor) :
    ∀ (left : Nat) (t : Text) (s : Session), runLists x left (tokenLists t) s =
      ((runText x left t s).1.unquoted, (runText x left t s).2) := by
  intro left
  induction left with
  | zero => intro t s; rfl
  | succ left ih =>
      intro t s
      rw [runLists, tokenLists_eq, sequence_map, runText_succ]
      exact sequence_translate Report.unquoted_rewords
        (fun c hc => list_toWords ih (isToken_of_mem_args hc)) s

/-- They route the same commands, too. -/
theorem routedLists_tokenLists (x : Executor) :
    ∀ (left : Nat) (t : Text) (s : Session),
      routedLists x left (tokenLists t) s = routed x left t s := by
  intro left
  induction left with
  | zero => intro t s; rfl
  | succ left ih =>
      intro t s
      have hstep : ∀ c ∈ commands t, ∀ s, list x (runLists x left) c.toWords s =
          ((command x left c s).1.unquoted, (command x left c s).2) := fun c hc =>
        list_toWords (runLists_tokenLists x left) (isToken_of_mem_args hc)
      rw [routedLists, tokenLists_eq, collect_map, routed_succ]
      refine collect_congr (fun c hc s => by rw [hstep c hc]; rfl)
        (fun c hc s => by rw [hstep c hc]) (fun c hc s => ?_) s
      cases ha : s.aliases.get? c.verb with
      | some r =>
          simp only [Command.toWords, listRouted, ha]
          rw [commandRouted_alias ha, substitute, ← tokenLists_withVerb (isToken_of_mem_args hc), ih]
      | none =>
          simp only [Command.toWords, listRouted, ha]
          rw [commandRouted_route ha]

/-- **Going back to text changes nothing.**  A line does what its token lists do under a run that
never goes back to text: it leaves the same session, exits the same way, reports the same failures
but for what those of the limit quote, and routes the same commands in the same order.  Routing
these commands one after another is all that happens to the session.  So lines with the same tokens
run alike, and every verb and argument that is routed is a token.

What a program is asked for can differ from that in one way: the home takes the place of a `~`, and
an interpreter is given the whole command as one argument. -/
theorem run_refines (x : Executor) (line : Text) (s : Session) :
    run x (tokenLists line) s =
      ((Dispatch.run x line s).1.unquoted, (Dispatch.run x line s).2) ∧
    routedBy x (tokenLists line) s = Dispatch.routedBy x line s ∧
    sequence (route x) (Dispatch.routedBy x line s) s =
      ((Dispatch.run x line s).1.withoutLimits, (Dispatch.run x line s).2) ∧
    (∀ line', tokenLists line' = tokenLists line →
      Dispatch.run x line' s = Dispatch.run x line s) ∧
    (∀ c ∈ Dispatch.routedBy x line s, ∀ w ∈ c.toWords, IsToken w) ∧
    x.Asks (Dispatch.routedBy x line s) s (Dispatch.run x line s).2 :=
  ⟨runLists_tokenLists x _ line s, routedLists_tokenLists x _ line s, replay x _ line s,
    fun _ h => runText_congr h x aliasLimit s, fun _ => isToken_of_mem_routed,
    run_asks x line s⟩

/-- Two spellings of one line.  The alias ends in `;`, so its argument is a command of its own. -/
theorem run_refines_spellings :
    let x : Executor := ⟨Scripted.launcher ⟨[], [], [], []⟩, none⟩
    let s : Session :=
      { Session.fresh "/" with aliases := .ofList [("both", " print  one;;\u3000print two ;")] }
    tokenLists " ;both\u3000 extra" = tokenLists "both extra; " ∧
      Dispatch.run x " ;both\u3000 extra" s = Dispatch.run x "both extra; " s ∧
      ⟨"extra", []⟩ ∈ Dispatch.routedBy x "both extra; " s ∧ IsToken "extra" := by
  intro x s
  have htokens : tokenLists " ;both\u3000 extra" = tokenLists "both extra; " := by decide +kernel
  have hrouted : ⟨"extra", []⟩ ∈ Dispatch.routedBy x "both extra; " s := by decide +kernel
  obtain ⟨-, -, -, hcongr, htoken, -⟩ := run_refines x "both extra; " s
  exact ⟨htokens, hcongr _ htokens, hrouted, htoken _ hrouted _ (by simp [Command.toWords])⟩

/-- A word that reaches a program need not be a token: the home takes the place of a `~`, and this
one holds a space. -/
theorem blank_in_home_reaches_program :
    let x : Executor := ⟨Scripted.launcher ⟨[], [], [], []⟩, none⟩
    let s : Session := { Session.fresh "/work" with home := some "/a b" }
    ¬ ∀ q ∈ (Dispatch.run x "run ~" s).2.requests, ∀ w ∈ q.program :: q.args, IsToken w := by
  decide +kernel

end TokenLevel

end AliasShell
