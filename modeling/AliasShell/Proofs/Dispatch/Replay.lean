/-
The commands that a line comes down to.

Whatever aliases a line goes through, in the end it is commands that are routed,
one after another.  `routed` lists them as the run meets them, and `replay` says
that nothing else happens: routing these commands in order leaves the same
session, exits the same way and reports the same failures, but for those of the
limit, which name commands that were not routed.

So a property of sessions that every routed command keeps is kept by every line,
and no proof of one has to look into aliases again: `run_keeps`.  `run_asks` is of
that kind: a line makes requests for the commands it routes and for no others.
-/
import AliasShell.Proofs.Dispatch.Sequence

namespace AliasShell

namespace Report

/-- The report without the failures of the limit. -/
def withoutLimits (r : Report) : Report := ⟨r.errors.filter fun e => !e.isLimit, r.exit⟩

theorem withoutLimits_rewords : Rewords withoutLimits where
  quiet := rfl
  append a b := by simp [withoutLimits, append]
  exit _ := rfl

theorem withoutLimits_eq_self {r : Report} (h : r.WithinLimit) : r.withoutLimits = r := by
  have herrors : (r.errors.filter fun e => !e.isLimit) = r.errors :=
    List.filter_eq_self.mpr fun e he => by simp [h e he]
  rw [withoutLimits, herrors]

end Report

namespace Dispatch

/-! ### The routed commands of a run -/

/-- What the steps of a sequence contribute, until one of them exits. -/
def collect {α : Type} (step : α → Session → Report × Session)
    (part : α → Session → List Command) : List α → Session → List Command
  | [], _ => []
  | c :: cs, s =>
    part c s ++
      if (step c s).1.exit.isSome then [] else collect step part cs (step c s).2

/-- The commands that one command routes: those of its replacement, or itself. -/
def commandRouted (again : Text → Session → List Command) (c : Command) (s : Session) :
    List Command :=
  match s.aliases.get? c.verb with
  | some replacement => again (c.withVerb replacement) s
  | none => [c]

/-- The commands that a text routes, in order. -/
def routed (x : Executor) : Nat → Text → Session → List Command
  | 0, _, _ => []
  | left + 1, text, s =>
    collect (command x left) (commandRouted (routed x left)) (commands text) s

/-- The commands that a line routes, in order. -/
def routedBy (x : Executor) (line : Text) (s : Session) : List Command :=
  routed x (aliasLimit + 1) line s

theorem routed_succ (x : Executor) (left : Nat) (t : Text) (s : Session) :
    routed x (left + 1) t s =
      collect (command x left) (commandRouted (routed x left)) (commands t) s := rfl

section

variable {again : Text → Session → List Command} {c : Command} {s : Session}

theorem commandRouted_alias {r : Text} (h : s.aliases.get? c.verb = some r) :
    commandRouted again c s = again (c.withVerb r) s := by
  simp only [commandRouted, h]

theorem commandRouted_route (h : s.aliases.get? c.verb = none) :
    commandRouted again c s = [c] := by
  simp only [commandRouted, h]

end

theorem collect_map {α β : Type} {step : α → Session → Report × Session}
    {part : α → Session → List Command} (f : β → α) (cs : List β) (s : Session) :
    collect step part (cs.map f) s =
      collect (fun c => step (f c)) (fun c => part (f c)) cs s := by
  induction cs generalizing s with
  | nil => rfl
  | cons c cs ih => simp only [List.map_cons, collect, ih]

theorem collect_append {α : Type} {step : α → Session → Report × Session}
    {part : α → Session → List Command} (as bs : List α) (s : Session) :
    collect step part (as ++ bs) s =
      collect step part as s ++
        if (sequence step as s).1.exit.isSome then []
        else collect step part bs (sequence step as s).2 := by
  induction as generalizing s with
  | nil => rfl
  | cons a as ih =>
      rw [List.cons_append, collect, collect]
      cases he : (step a s).1.exit with
      | none =>
          simp only [sequence_cons_next he, ih, Option.isSome_none, Bool.false_eq_true, if_false,
            List.append_assoc]
          rfl
      | some code =>
          simp only [sequence_cons_exit (by rw [he]; rfl), he, Option.isSome_some, if_true,
            List.append_nil]

/-- Steps that exit alike and leave the same session contribute alike. -/
theorem collect_congr {α : Type} {step step' : α → Session → Report × Session}
    {part part' : α → Session → List Command} {cs : List α}
    (hexit : ∀ c ∈ cs, ∀ s, (step' c s).1.exit = (step c s).1.exit)
    (hsession : ∀ c ∈ cs, ∀ s, (step' c s).2 = (step c s).2)
    (hpart : ∀ c ∈ cs, ∀ s, part' c s = part c s) (s : Session) :
    collect step' part' cs s = collect step part cs s := by
  induction cs generalizing s with
  | nil => rfl
  | cons c cs ih =>
      have hc : c ∈ c :: cs := List.mem_cons_self
      rw [collect, collect, hpart c hc, hexit c hc, hsession c hc,
        ih (fun d hd => hexit d (List.mem_cons_of_mem c hd))
          (fun d hd => hsession d (List.mem_cons_of_mem c hd))
          fun d hd => hpart d (List.mem_cons_of_mem c hd)]

theorem mem_collect {α : Type} {step : α → Session → Report × Session}
    {part : α → Session → List Command} {d : Command} :
    ∀ {cs : List α} {s : Session}, d ∈ collect step part cs s → ∃ c ∈ cs, ∃ s', d ∈ part c s' := by
  intro cs
  induction cs with
  | nil => intro s h; cases h
  | cons c cs ih =>
      intro s h
      rcases List.mem_append.mp h with hc | hrest
      · exact ⟨c, List.mem_cons_self, s, hc⟩
      · split at hrest
        · cases hrest
        · obtain ⟨c', hc', s', hd⟩ := ih hrest
          exact ⟨c', List.mem_cons_of_mem c hc', s', hd⟩

/-- **Every word of a routed command is a token.** -/
theorem isToken_of_mem_routed {x : Executor} {c : Command} :
    ∀ {left : Nat} {t : Text} {s : Session}, c ∈ routed x left t s →
      ∀ w ∈ c.toWords, IsToken w := by
  intro left
  induction left with
  | zero => intro t s h; cases h
  | succ left ih =>
      intro t s h
      rw [routed_succ] at h
      obtain ⟨d, hd, s', hc⟩ := mem_collect h
      cases ha : s'.aliases.get? d.verb with
      | some r =>
          rw [commandRouted_alias ha] at hc
          exact ih hc
      | none =>
          rw [commandRouted_route ha] at hc
          obtain rfl := List.mem_singleton.mp hc
          exact isToken_of_mem_commands hd

/-! ### Routing them again -/

/-- If what each step contributes replays the step, what a sequence collects replays the sequence. -/
theorem sequence_collect {α : Type} {x : Executor} {step : α → Session → Report × Session}
    {part : α → Session → List Command} {f : Report → Report} (hf : Report.Rewords f)
    (h : ∀ c s, sequence (route x) (part c s) s = (f (step c s).1, (step c s).2)) :
    ∀ (cs : List α) (s : Session), sequence (route x) (collect step part cs s) s =
      (f (sequence step cs s).1, (sequence step cs s).2) := by
  intro cs
  induction cs with
  | nil => intro s; exact Prod.ext hf.quiet.symm rfl
  | cons c cs ih =>
      intro s
      cases he : (step c s).1.exit with
      | none =>
          rw [sequence_cons_next he, collect, if_neg (by simp [he]), sequence_append, h c s]
          simp only [hf.exit, he, Option.isSome_none, Bool.false_eq_true, if_false, ih, hf.append]
      | some code =>
          have hsome : (step c s).1.exit.isSome = true := by rw [he]; rfl
          rw [sequence_cons_exit hsome, collect, if_pos hsome, List.append_nil, h c s]

/-- What a command routes replays it, if the same holds of what it may be replaced by. -/
theorem replay_command {x : Executor} {left : Nat}
    (h : ∀ (t : Text) (s : Session), sequence (route x) (routed x left t s) s =
      ((runText x left t s).1.withoutLimits, (runText x left t s).2)) (c : Command) (s : Session) :
    sequence (route x) (commandRouted (routed x left) c s) s =
      ((command x left c s).1.withoutLimits, (command x left c s).2) := by
  cases ha : s.aliases.get? c.verb with
  | some r => rw [commandRouted_alias ha, command_alias ha, h]
  | none =>
      rw [commandRouted_route ha, command_route ha, sequence_singleton,
        Report.withoutLimits_eq_self (route_errors x c s).2]

/-- **A text does what its routed commands do**, one after another; beyond that it reports aliases
that were replaced too often, and that is all. -/
theorem replay (x : Executor) :
    ∀ (left : Nat) (t : Text) (s : Session), sequence (route x) (routed x left t s) s =
      ((runText x left t s).1.withoutLimits, (runText x left t s).2) := by
  intro left
  induction left with
  | zero => intro t s; rfl
  | succ left ih =>
      intro t s
      rw [routed_succ, runText_succ]
      exact sequence_collect Report.withoutLimits_rewords (replay_command ih) (commands t) s

theorem replay_line (x : Executor) (line : Text) (s : Session) :
    sequence (route x) (routedBy x line s) s = ((run x line s).1.withoutLimits, (run x line s).2) :=
  replay x (aliasLimit + 1) line s

/-! ### What every routed command keeps -/

/-- Requests of a sequence are for the commands of the sequence. -/
theorem sequence_asks (x : Executor) :
    ∀ (cs : List Command) (s : Session), x.Asks cs s (sequence (route x) cs s).2 := by
  intro cs
  induction cs with
  | nil => intro s; exact .of_surroundings rfl
  | cons c cs ih =>
      intro s
      have hc : x.Asks [c] s (route x c s).2 := route_asks x c s
      cases he : (route x c s).1.exit with
      | none =>
          rw [sequence_cons_next he]
          exact hc.append (ih (route x c s).2)
      | some code =>
          have hrest : x.Asks cs (route x c s).2 (route x c s).2 := .of_surroundings rfl
          rw [sequence_cons_exit (by rw [he]; rfl)]
          exact hc.append hrest

/-- A line makes requests for the commands that it routes, and for no others. -/
theorem run_asks (x : Executor) (line : Text) (s : Session) :
    x.Asks (routedBy x line s) s (run x line s).2 := by
  have h := sequence_asks x (routedBy x line s) s
  rwa [replay_line] at h

/-! ### Lines one after another -/

/-- The session after lines, whatever each of them reports. -/
def after (x : Executor) (lines : List Text) (s : Session) : Session :=
  lines.foldl (fun s line => (run x line s).2) s

section Keeps

variable {P : Session → Prop} {x : Executor}

/-- What every step keeps is kept by the sequence. -/
theorem sequence_keeps {α : Type} {step : α → Session → Report × Session} {cs : List α}
    (h : ∀ c ∈ cs, ∀ s, P s → P (step c s).2) :
    ∀ {s : Session}, P s → P (sequence step cs s).2 := by
  induction cs with
  | nil => exact fun hs => hs
  | cons c cs ih =>
      intro s hs
      have hc : P (step c s).2 := h c List.mem_cons_self s hs
      cases he : (step c s).1.exit with
      | none =>
          rw [sequence_cons_next he]
          exact ih (fun d hd => h d (List.mem_cons_of_mem c hd)) hc
      | some code =>
          rw [sequence_cons_exit (by rw [he]; rfl)]
          exact hc

/-- **What every routed command of tokens keeps is kept by every line.** -/
theorem run_keeps
    (h : ∀ c : Command, (∀ w ∈ c.toWords, IsToken w) → ∀ s, P s → P (route x c s).2)
    (line : Text) {s : Session} (hs : P s) : P (run x line s).2 := by
  have hrouted : P (sequence (route x) (routedBy x line s) s).2 :=
    sequence_keeps (fun c hc s hs => h c (isToken_of_mem_routed hc) s hs) hs
  rwa [replay_line] at hrouted

/-- And by lines one after another. -/
theorem after_keeps
    (h : ∀ c : Command, (∀ w ∈ c.toWords, IsToken w) → ∀ s, P s → P (route x c s).2)
    (lines : List Text) {s : Session} (hs : P s) : P (after x lines s) := by
  induction lines generalizing s with
  | nil => exact hs
  | cons line lines ih => exact ih (run_keeps h line hs)

end Keeps

end Dispatch

end AliasShell
