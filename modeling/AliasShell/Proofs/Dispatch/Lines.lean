/-
Lines one after another, and the same lines on one line.

A `;` between two lines puts the commands of the second behind those of the first.
So lines joined with `;` run one by one until one of them exits: `run_joinedLines`.
Whatever runs its lines one by one can be compared with a single line by this, a
startup file as well as the lines that a shell reads.

`Course` says what a run that stops at the first exit comes to: every line up to
that one has run, each in the session that the line before it left, and no line
after it.
-/
import AliasShell.Proofs.Dispatch.Indifference
import AliasShell.Proofs.Dispatch.Replay

namespace AliasShell

/-- Lines on one line, with a `;` between them. -/
def joinedLines (lines : List Text) : Text := [';'].intercalate lines

theorem joinedLines_cons_cons (l m : Text) (ls : List Text) :
    joinedLines (l :: m :: ls) = l ++ ';' :: joinedLines (m :: ls) := by
  rw [joinedLines, List.intercalate_cons_cons, List.append_assoc]
  rfl

/-- Joined lines hold the commands of each of them. -/
theorem commands_joinedLines (lines : List Text) :
    commands (joinedLines lines) = lines.flatMap commands := by
  induction lines with
  | nil => rfl
  | cons l ls ih =>
      cases ls with
      | nil => rw [joinedLines, List.intercalate_singleton, List.flatMap_singleton]
      | cons m ls =>
          rw [joinedLines_cons_cons, commands_separator, ih]
          exact List.flatMap_cons.symm

namespace Dispatch

/-- Steps in groups are run group by group. -/
theorem sequence_flatMap {α β : Type} {step : α → Session → Report × Session} (f : β → List α)
    (xs : List β) (s : Session) :
    sequence step (xs.flatMap f) s = sequence (fun x => sequence step (f x)) xs s := by
  induction xs generalizing s with
  | nil => rfl
  | cons x xs ih =>
      rw [List.flatMap_cons, sequence_append, sequence]
      simp only [ih]

/-- **Joined lines run one after another until one of them exits.** -/
theorem run_joinedLines (x : Executor) (lines : List Text) (s : Session) :
    run x (joinedLines lines) s = sequence (run x) lines s := by
  rw [run, runText_succ, commands_joinedLines, sequence_flatMap]
  rfl

/-- What joined lines route is what each of them routes, until one of them exits. -/
theorem routedBy_joinedLines (x : Executor) (lines : List Text) (s : Session) :
    routedBy x (joinedLines lines) s = collect (run x) (routedBy x) lines s := by
  rw [routedBy, routed_succ, commands_joinedLines]
  induction lines generalizing s with
  | nil => rfl
  | cons line lines ih =>
      rw [List.flatMap_cons, collect_append, ih]
      rfl

/-! ### Until one of them exits -/

/-- The failures that lines report, in order. -/
def errorsOf (outcomes : List (Report × Session)) : List CommandError :=
  outcomes.flatMap (·.1.errors)

/-- What lines come to from `s` that run until one of them exits: either none does and all of them
run, or one does and the rest is left out. -/
inductive Course (x : Executor) (s : Session) : List Text → Report → Session → Prop
  | through {lines : List Text} (none_exits : ∀ o ∈ runEach x lines s, o.1.exit = none) :
      Course x s lines ⟨errorsOf (runEach x lines s), none⟩ (after x lines s)
  | exits {ran rest : List Text} {line : Text} {code : Int}
      (none_exits : ∀ o ∈ runEach x ran s, o.1.exit = none)
      (exit : (run x line (after x ran s)).1.exit = some code) :
      Course x s (ran ++ line :: rest)
        ⟨errorsOf (runEach x ran s) ++ (run x line (after x ran s)).1.errors, some code⟩
        (run x line (after x ran s)).2

section

variable {x : Executor} {s s' : Session} {line : Text} {lines : List Text} {r : Report}

/-- A line that does not exit can stand in front. -/
theorem Course.cons (h : (run x line s).1.exit = none) (hc : Course x (run x line s).2 lines r s') :
    Course x s (line :: lines) ((run x line s).1.append r) s' := by
  have hall : ∀ {ls : List Text}, (∀ o ∈ runEach x ls (run x line s).2, o.1.exit = none) →
      ∀ o ∈ runEach x (line :: ls) s, o.1.exit = none := fun hls o ho =>
    (List.mem_cons.mp ho).elim (fun he => he ▸ h) (hls o)
  cases hc with
  | through hls => exact .through (hall hls)
  | @exits ran rest last code hran hexit =>
      rw [Report.append, ← List.append_assoc]
      exact @Course.exits x s (line :: ran) rest last code (hall hran) hexit

/-- A run that stops at the first exit takes this course. -/
theorem course_sequence (x : Executor) (lines : List Text) (s : Session) :
    Course x s lines (sequence (run x) lines s).1 (sequence (run x) lines s).2 := by
  induction lines generalizing s with
  | nil => exact .through (by simp [runEach])
  | cons l ls ih =>
      cases he : (run x l s).1.exit with
      | none =>
          rw [sequence_cons_next he]
          exact (ih _).cons he
      | some code =>
          rw [sequence_cons_exit (by rw [he]; rfl)]
          have hreport : (run x l s).1 = ⟨(run x l s).1.errors, some code⟩ := by rw [← he]
          have hcourse := @Course.exits x s [] ls l code (by simp [runEach]) he
          rw [hreport]
          exact hcourse

/-- And if no line exits, all of them run. -/
theorem sequence_of_none_exits (h : ∀ o ∈ runEach x lines s, o.1.exit = none) :
    sequence (run x) lines s = (⟨errorsOf (runEach x lines s), none⟩, after x lines s) := by
  induction lines generalizing s with
  | nil => rfl
  | cons l ls ih =>
      rw [sequence_cons_next (h _ List.mem_cons_self),
        ih fun o ho => h o (List.mem_cons_of_mem _ ho)]
      rfl

end

end Dispatch

end AliasShell
