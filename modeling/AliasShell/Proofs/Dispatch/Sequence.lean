/-
Steps one after another.

Every text is run by `sequence`: a step for each command, until one of them exits.
What is proved of the dispatcher is proved of a step first and carried over to a
sequence by one of the laws here.  `sequence_translate` is for two runs whose
reports differ in wording only, `sequence_of_withinLimit` for two that agree where
no alias is replaced too often.

`command` is the step itself: a command is replaced if it is an alias, and routed
if it is not.  `run_compound` is what all this comes to for a whole line: what
stands left of a `;` runs, then what stands right of it, in the session that the
first left behind.
-/
import AliasShell.Proofs.Surroundings
import AliasShell.Proofs.Tokens

namespace AliasShell

namespace Report

theorem append_quiet {r : Report} (h : r.exit = none) : r.append quiet = r := by
  cases r
  simp_all [append, quiet]

/-- No alias was replaced too often. -/
def WithinLimit (r : Report) : Prop := ∀ e ∈ r.errors, e.isLimit = false

instance (r : Report) : Decidable r.WithinLimit :=
  inferInstanceAs (Decidable (∀ e ∈ r.errors, e.isLimit = false))

/-- `f` changes reports failure by failure and leaves the exit alone. -/
structure Rewords (f : Report → Report) : Prop where
  quiet : f .quiet = .quiet
  append : ∀ a b, f (a.append b) = (f a).append (f b)
  exit : ∀ r, (f r).exit = r.exit

end Report

namespace Dispatch

section Sequence

variable {α : Type} {step step' : α → Session → Report × Session}

/-! ### One step and the rest -/

theorem sequence_cons_exit {c : α} {s : Session} (h : (step c s).1.exit.isSome = true)
    (cs : List α) : sequence step (c :: cs) s = step c s := by
  simp [sequence, h]

theorem sequence_cons_next {c : α} {s : Session} (h : (step c s).1.exit = none)
    (cs : List α) :
    sequence step (c :: cs) s =
      ((step c s).1.append (sequence step cs (step c s).2).1,
        (sequence step cs (step c s).2).2) := by
  simp [sequence, h]

theorem sequence_singleton (c : α) (s : Session) : sequence step [c] s = step c s := by
  cases h : (step c s).1.exit with
  | none =>
      rw [sequence_cons_next h]
      exact Prod.ext (Report.append_quiet h) rfl
  | some code => exact sequence_cons_exit (by rw [h]; rfl) []

theorem sequence_map {β : Type} (f : β → α) (cs : List β) (s : Session) :
    sequence step (cs.map f) s = sequence (fun c => step (f c)) cs s := by
  induction cs generalizing s with
  | nil => rfl
  | cons c cs ih => simp only [List.map_cons, sequence, ih]

/-! ### Two sequences side by side -/

/-- Steps that differ in wording make sequences that differ in wording. -/
theorem sequence_translate {f : Report → Report} (hf : Report.Rewords f) {cs : List α}
    (h : ∀ c ∈ cs, ∀ s, step' c s = (f (step c s).1, (step c s).2)) (s : Session) :
    sequence step' cs s = (f (sequence step cs s).1, (sequence step cs s).2) := by
  induction cs generalizing s with
  | nil => exact Prod.ext hf.quiet.symm rfl
  | cons c cs ih =>
      have hc : step' c s = (f (step c s).1, (step c s).2) := h c (by simp) s
      have hexit : (step' c s).1.exit = (step c s).1.exit := by rw [hc, hf.exit]
      cases he : (step c s).1.exit with
      | none =>
          rw [sequence_cons_next (hexit.trans he), sequence_cons_next he, hc,
            ih fun d hd => h d (by simp [hd])]
          exact Prod.ext (hf.append _ _).symm rfl
      | some code =>
          rw [sequence_cons_exit (by rw [hexit, he]; rfl), sequence_cons_exit (by rw [he]; rfl), hc]

/-- Steps that agree within the limit make sequences that agree within the limit.  The rest of a
sequence is within the limit if the whole is, so each step finds the session it would find. -/
theorem sequence_of_withinLimit {cs : List α}
    (h : ∀ c ∈ cs, ∀ s, (step c s).1.WithinLimit → step' c s = step c s) (s : Session)
    (hlim : (sequence step cs s).1.WithinLimit) :
    sequence step' cs s = sequence step cs s := by
  induction cs generalizing s with
  | nil => rfl
  | cons c cs ih =>
      cases he : (step c s).1.exit with
      | none =>
          rw [sequence_cons_next he] at hlim
          have hc : step' c s = step c s :=
            h c (by simp) s fun e hm => hlim e (List.mem_append_left _ hm)
          have hrest : (sequence step cs (step c s).2).1.WithinLimit :=
            fun e hm => hlim e (List.mem_append_right _ hm)
          rw [sequence_cons_next he, sequence_cons_next (by rw [hc]; exact he), hc,
            ih (fun d hd => h d (by simp [hd])) _ hrest]
      | some code =>
          have hsome : (step c s).1.exit.isSome = true := by rw [he]; rfl
          rw [sequence_cons_exit hsome] at hlim
          have hc : step' c s = step c s := h c (by simp) s hlim
          rw [sequence_cons_exit hsome, sequence_cons_exit (by rw [hc]; exact hsome), hc]

end Sequence

/-! ### The step of a text -/

/-- Runs one command, which may still be replaced `left` times. -/
def command (x : Executor) (left : Nat) (c : Command) (s : Session) : Report × Session :=
  match s.aliases.get? c.verb with
  | some replacement => runText x left (c.withVerb replacement) s
  | none => route x c s

variable {x : Executor} {left : Nat} {c : Command} {s : Session}

theorem command_alias {r : Text} (h : s.aliases.get? c.verb = some r) :
    command x left c s = runText x left (c.withVerb r) s := by
  simp only [command, h]

theorem command_route (h : s.aliases.get? c.verb = none) :
    command x left c s = route x c s := by
  simp only [command, h]

theorem runText_succ (x : Executor) (left : Nat) (t : Text) (s : Session) :
    runText x (left + 1) t s = sequence (command x left) (commands t) s := rfl

/-- Texts with the same tokens run alike. -/
theorem runText_congr {a b : Text} (h : tokenLists a = tokenLists b) (x : Executor) (left : Nat)
    (s : Session) : runText x (left + 1) a s = runText x (left + 1) b s := by
  rw [runText_succ, runText_succ, commands_congr h]

/-! ### Lines one after another -/

/-- **A `;` runs what stands left of it and then what stands right of it.**  If the left side exits,
that is all.  Otherwise the right side runs in the session that the left side left behind, aliases,
output and requests included, whatever failures the left side reported; those come first in the
report, and the exit is that of the right side. -/
theorem run_compound (x : Executor) (l₁ l₂ : Text) (s : Session) :
    run x (l₁ ++ ';' :: l₂) s =
      match run x l₁ s with
      | (r₁, s₁) =>
        match r₁.exit with
        | some _ => (r₁, s₁)
        | none =>
          match run x l₂ s₁ with
          | (r₂, s₂) => (⟨r₁.errors ++ r₂.errors, r₂.exit⟩, s₂) := by
  have happend := sequence_append (command x aliasLimit) (commands l₁) (commands l₂) s
  rw [← commands_separator, ← runText_succ, ← runText_succ] at happend
  unfold run
  rw [happend]
  rcases runText x (aliasLimit + 1) l₁ s with ⟨r₁, s₁⟩
  cases hexit : r₁.exit with
  | some code => simp [hexit]
  | none => simp only [hexit, Option.isSome_none, Bool.false_eq_true, if_false]; rfl

end Dispatch

end AliasShell
