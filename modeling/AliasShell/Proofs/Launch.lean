/-
Asking for a program.

A program is asked for by one request, and by a second one where it is not there and an
interpreter stands behind it.  `Asking` lists the ways in which that can go.  Which requests are
made, when all is well and what is reported otherwise is read off the list, a lemma for each, and
`spawn_retries` puts them together.

The interpreter gets the whole command as one text.  Expanding the home in an argument puts
in nothing but the home, `/` and parts of the argument, so what was a word is one still, and
the interpreter can tell the words of the command again: `isWord_expandArg`.
-/
import AliasShell.Proofs.Home

namespace AliasShell

/-! ### What asking comes to -/

/-- The answer is that there is no such program, whatever program it names. -/
def Missing (answer : Except LaunchError Ending) : Prop := ∃ p, answer = .error (.notFound p)

theorem missing_notFound (p : Text) : Missing (.error (.notFound p)) := ⟨p, rfl⟩

theorem not_missing_ok (ending : Ending) : ¬ Missing (.ok ending) := fun ⟨_, h⟩ => by cases h

theorem not_missing_failed (p reason : Text) : ¬ Missing (.error (.failed p reason)) :=
  fun ⟨_, h⟩ => by cases h

namespace Executor

namespace Asking

variable {x : Executor} {q : Request} {es later : List Exchange}
  {answer : Except LaunchError Ending} {result : Except LaunchError Unit}

/-- The request itself is put first. -/
theorem exists_first (h : x.Asking q es result) : ∃ answer later, es = (q, answer) :: later := by
  cases h with
  | started _ => exact ⟨_, _, rfl⟩
  | failed _ _ => exact ⟨_, _, rfl⟩
  | missing _ _ => exact ⟨_, _, rfl⟩
  | interpreted _ _ _ => exact ⟨_, _, rfl⟩
  | refused _ _ _ => exact ⟨_, _, rfl⟩

/-- The interpreter is asked where there is one and the program is not there. -/
theorem later_ne_nil_iff (h : x.Asking q ((q, answer) :: later) result) :
    later ≠ [] ↔ Missing answer ∧ x.fallback ≠ none := by
  cases h with
  | started ending => simp [not_missing_ok ending]
  | failed p reason => simp [not_missing_failed p reason]
  | missing p fallback => simp [fallback]
  | interpreted p ending fallback => simp [missing_notFound p, fallback]
  | refused p e fallback => simp [missing_notFound p, fallback]

/-- It is asked once at most, and for the whole command. -/
theorem later_eq (h : x.Asking q ((q, answer) :: later) result) :
    later.length ≤ 1 ∧ ∀ e ∈ later, ∃ f, x.fallback = some f ∧ e.1 = retry f q := by
  cases h with
  | started _ => simp
  | failed _ _ => simp
  | missing _ _ => simp
  | interpreted p ending fallback => simp [fallback]
  | refused p e fallback => simp [fallback]

/-- All is well if the last one that was asked for was started. -/
theorem ok_iff (h : x.Asking q es result) :
    result = .ok () ↔ ∃ r ending, es.getLast? = some (r, .ok ending) := by
  cases h with
  | started ending => simp
  | failed p reason => simp
  | missing p fallback => simp
  | interpreted p ending fallback => simp
  | refused p e fallback => simp

/-- It is the program that is not there, also where the interpreter could not be started. -/
theorem notFound_iff (h : x.Asking q ((q, answer) :: later) result) (p : Text) :
    result = .error (.notFound p) ↔
      p = q.program ∧ Missing answer ∧ (x.fallback = none ∨ ∃ r e, later = [(r, .error e)]) := by
  cases h with
  | started ending => simp [not_missing_ok ending]
  | failed p' reason => simp [not_missing_failed p' reason]
  | missing p' fallback => simp [missing_notFound p', fallback, eq_comm]
  | interpreted p' ending fallback => simp [fallback]
  | refused p' e fallback => simp [missing_notFound p', eq_comm]

/-- Any other failure is the end, and it is reported as it is. -/
theorem eq_of_error {e : LaunchError} (h : x.Asking q ((q, answer) :: later) result)
    (he : answer = .error e) (hthere : ¬ Missing answer) : later = [] ∧ result = .error e := by
  subst he
  cases h with
  | failed p reason => exact ⟨rfl, rfl⟩
  | missing p fallback => exact absurd (missing_notFound p) hthere
  | interpreted p ending fallback => exact absurd (missing_notFound p) hthere
  | refused p e fallback => exact absurd (missing_notFound p) hthere

end Asking

end Executor

/-! ### The words of a command -/

namespace Path

open Text (IsWord)

theorem isWord_join {base p : Text} (hbase : IsWord base) (hp : ∀ c ∈ p, isBlank c = false) :
    IsWord (join base p) := by
  rw [join_eq]
  split
  · next habsolute =>
      refine ⟨?_, hp⟩
      rintro rfl
      cases habsolute
  · obtain ⟨front, hfront⟩ := prefix_lead base
    refine ⟨?_, fun c hc => ?_⟩
    · rw [← hfront, List.append_assoc]
      exact List.append_ne_nil_of_left_ne_nil hbase.ne_nil _
    · rcases List.mem_append.mp hc with hc | hc
      · unfold lead at hc
        split at hc
        · exact hbase.solid c hc
        · rcases List.mem_append.mp hc with hc | hc
          · exact hbase.solid c hc
          · rw [List.mem_singleton.mp hc]
            rfl
      · exact hp c hc

theorem isWord_foldl_join {ns : List Text} (hns : ∀ n ∈ ns, ∀ c ∈ n, isBlank c = false)
    {base : Text} (hbase : IsWord base) : IsWord (ns.foldl join base) := by
  induction ns generalizing base with
  | nil => exact hbase
  | cons n ns ih =>
      exact ih (fun m hm => hns m (List.mem_cons_of_mem n hm))
        (isWord_join hbase (hns n List.mem_cons_self))

theorem mem_of_mem_names {p n : Text} (h : n ∈ names p) : ∀ c ∈ n, c ∈ p :=
  Text.mem_of_mem_cut (List.mem_filter.mp h).1

/-- **With a home that is a word, words stay words.** -/
theorem isWord_expandArg {home : Option Text} {arg : Text} (hhome : ∀ h ∈ home, IsWord h)
    (harg : IsWord arg) : IsWord (expandArg home arg) := by
  unfold expandArg
  split
  · next hpath =>
      cases home with
      | none =>
          rw [expandTilde_none hpath]
          exact harg
      | some h =>
          rw [expandTilde_some hpath, ← foldl_join fun _ => isName_of_mem_names]
          refine isWord_foldl_join (fun n hn c hc => harg.solid c ?_) (hhome h rfl)
          exact List.mem_of_mem_drop (mem_of_mem_names hn c hc)
  · exact harg

end Path

/-! ### The protocol -/

namespace Executor

open Text (IsWord)

/-- **A program is asked for once, and the interpreter behind it once more.**  The first request is
for the program in the directory and with the variables of the session.  If and only if it is not
there and an interpreter stands behind it, a second request is made, for the interpreter with the
whole command as one text; there is never a third.  All is well if and only if what was asked for
last was started.  If the program is not there and the interpreter could not be started either, or
there is none, the program is said not to be there, whatever the answers named; any other failure to
start it is reported as it is. -/
theorem spawn_retries (x : Executor) (program : Text) (args : List Text) (s : Session) :
    let q : Request := ⟨program, args.map (Path.expandArg s.home), s.cwd, s.env.snapshot⟩
    let line := Text.unwords (program :: q.args)
    let result := (x.spawn program args s).2
    ∃ answer later,
      s.Exchanges x.launcher ((q, answer) :: later) (x.spawn program args s).1 ∧
      (x.spawn program args s).1.requests = s.requests ++ q :: later.map (·.1) ∧
      (later ≠ [] ↔ Missing answer ∧ x.fallback ≠ none) ∧
      later.length ≤ 1 ∧
      (∀ e ∈ later, ∃ f, x.fallback = some f ∧
        e.1 = ⟨f.program, [f.flag, line], s.cwd, s.env.snapshot⟩) ∧
      (result = .ok () ↔ ∃ r ending, ((q, answer) :: later).getLast? = some (r, .ok ending)) ∧
      (∀ p, result = .error (.notFound p) ↔
        p = program ∧ Missing answer ∧ (x.fallback = none ∨ ∃ r e, later = [(r, .error e)])) ∧
      (∀ e, answer = .error e → ¬ Missing answer → later = [] ∧ result = .error e) ∧
      (IsWord program → (∀ a ∈ args, IsWord a) → (∀ h ∈ s.home, IsWord h) →
        line.words = program :: q.args) := by
  obtain ⟨es, hexchanges, hasking⟩ := x.spawn_asking program args s
  obtain ⟨answer, later, rfl⟩ := hasking.exists_first
  obtain ⟨hlength, hlater⟩ := hasking.later_eq
  refine ⟨answer, later, hexchanges, hexchanges.requests, hasking.later_ne_nil_iff, hlength,
    hlater, hasking.ok_iff, hasking.notFound_iff, fun e he => hasking.eq_of_error he, ?_⟩
  intro hprogram hargs hhome
  refine Text.words_unwords (List.forall_mem_cons.mpr ⟨hprogram, fun w hw => ?_⟩)
  obtain ⟨arg, harg, rfl⟩ := List.mem_map.mp hw
  exact Path.isWord_expandArg hhome (hargs arg harg)

/-- A launcher that looks at the requests before: it knows no program at first, and names another
one, and then the interpreter is killed. -/
theorem spawn_retries_killed :
    let l : Launcher := ⟨fun files input before _ =>
      ⟨if before = [] then .error (.notFound "other") else .ok (.killed 9), files, input, [], []⟩⟩
    let x : Executor := ⟨l, some ⟨"sh", "-c"⟩⟩
    let s : Session := { Session.fresh "/w" with home := some "/h" }
    let line : Text := "run /h/é -v"
    (x.spawn "run" ["~\\é", "-v"] s).2 = .ok () ∧
      (x.spawn "run" ["~\\é", "-v"] s).1.requests =
        [⟨"run", ["/h/é", "-v"], "/w", []⟩, ⟨"sh", ["-c", line], "/w", []⟩] ∧
      line.words = ["run".toList, "/h/é".toList, "-v".toList] := by
  intro l x s line
  obtain ⟨answer, later, -, -, -, -, -, -, -, -, hwords⟩ :=
    x.spawn_retries "run" ["~\\é", "-v"] s
  refine ⟨by decide +kernel, by decide +kernel, ?_⟩
  have htokens : ∀ w ∈ ["run".toList, "~\\é".toList, "-v".toList, "/h".toList], IsToken w := by
    decide
  refine hwords (htokens _ (by decide)).toIsWord ?_ ?_
  · intro a ha
    rcases List.mem_pair.mp ha with rfl | rfl
    · exact (htokens _ (by decide)).toIsWord
    · exact (htokens _ (by decide)).toIsWord
  · rintro h ⟨⟩
    exact (htokens _ (by decide)).toIsWord

end Executor

end AliasShell
