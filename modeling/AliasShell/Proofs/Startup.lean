/-
What running a startup file comes to.

A startup file is cut at its line ends, its lines are numbered as they stand, and
what is left of each when it is trimmed is run, unless it is blank or a comment.
Nothing that a line does keeps the next one from running, so a text that is put
together from two is run in two parts, and the numbers of the second part count on
from the first: `sourceText_append`.

The rest is about one text.  Failures are reported with the numbers of lines that
were run, in ascending order.  And the lines may as well stand on one line with a
`;` between them, as long as none of them exits; an `exit` ends its own line in a
file, and everything on a single line.
-/
import AliasShell.Proofs.Dispatch.Lines
import AliasShell.Startup.Source

namespace AliasShell

theorem Text.length_cut (p : Char → Bool) (t : Text) : (t.cut p).length = t.countP p + 1 := by
  induction t with
  | nil => rfl
  | cons c cs ih =>
      rw [cut, List.countP_cons]
      split
      · rw [List.length_cons, ih]
      · obtain ⟨w, ws, hcut⟩ := List.exists_cons_of_ne_nil (cut_ne_nil p cs)
        rw [hcut] at ih
        rw [hcut, consFirst, List.length_cons, Nat.add_zero]
        exact ih

namespace Startup

/-! ### The lines of a text -/

/-- The lines of a text as they stand. -/
def physicalLines (content : Text) : List Text := content.cut (· == '\n')

/-- The lines of a text that are run: trimmed, without blank ones and comments. -/
def runningLines (content : Text) : List Text := ((physicalLines content).map Text.trim).filter runs

/-- The lines that run are those of the text, trimmed, but for blank ones and comments. -/
theorem numberedLines_lines (content : Text) :
    (numberedLines content).map (·.2) =
      ((content.cut (· == '\n')).map Text.trim).filter runs := by
  have hlines : ((content.cut (· == '\n')).zipIdx 1).map (fun l => l.1.trim) =
      (content.cut (· == '\n')).map Text.trim := by
    have hfst := List.zipIdx_map_fst 1 (content.cut (· == '\n'))
    rw [← congrArg (List.map Text.trim) hfst, List.map_map]
    rfl
  rw [numberedLines, ← hlines, List.filter_map, List.map_map, List.filter_map]
  rfl

/-- A line with another number. -/
def renumber {α : Type} (k : Nat) (l : Nat × α) : Nat × α := (l.1 + k, l.2)

theorem numberedLines_append (a b : Text) :
    numberedLines (a ++ '\n' :: b) =
      numberedLines a ++ (numberedLines b).map (renumber (1 + a.count '\n')) := by
  have hlength : (a.cut (· == '\n')).length = 1 + a.count '\n' := by
    rw [Text.length_cut, Nat.add_comm]
    rfl
  unfold numberedLines
  rw [Text.cut_append_sep rfl, List.zipIdx_append, List.map_append, List.filter_append, hlength,
    Nat.add_comm 1 (1 + _), ← List.map_snd_add_zipIdx_eq_zipIdx, List.map_map, List.filter_map,
    List.filter_map, List.filter_map, List.map_map]
  rfl

/-- A numbered line is the trimmed line of its number, and one to run. -/
theorem mem_numberedLines {content line : Text} {n : Nat} (h : (n, line) ∈ numberedLines content) :
    1 ≤ n ∧ runs line = true ∧
      ∃ l, (physicalLines content)[n - 1]? = some l ∧ l.trim = line := by
  obtain ⟨hmem, hruns⟩ := List.mem_filter.mp h
  obtain ⟨⟨l, m⟩, hl, heq⟩ := List.mem_map.mp hmem
  obtain ⟨rfl, rfl⟩ := Prod.mk.inj heq
  obtain ⟨hle, hget⟩ := List.mk_mem_zipIdx_iff_le_and_getElem?_sub.mp hl
  exact ⟨hle, hruns, l, hget, rfl⟩

/-- The numbers ascend. -/
theorem numberedLines_ascend (content : Text) :
    (numberedLines content).Pairwise fun l m => l.1 < m.1 := by
  have hindex : ((physicalLines content).zipIdx 1).Pairwise fun l m => l.2 < m.2 := by
    have hrange : (List.range' 1 (physicalLines content).length 1).Pairwise (· < ·) :=
      List.pairwise_lt_range' 1
    rw [← List.zipIdx_map_snd] at hrange
    exact List.pairwise_map.mp hrange
  have hnumbered : ((physicalLines content).zipIdx 1 |>.map fun l => (l.2, l.1.trim)).Pairwise
      fun l m : Nat × Text => l.1 < m.1 := List.pairwise_map.mpr hindex
  exact hnumbered.filter _

theorem runs_iff (line : Text) : runs line = true ↔ line ≠ [] ∧ line.head? ≠ some '#' := by
  cases line with
  | nil => simp [runs]
  | cons c cs =>
      have hstart : Text.startsWith (c :: cs) "#" = ('#' == c) := by
        show ('#' == c && List.isPrefixOf [] cs) = _
        rw [List.isPrefixOf_nil_left, Bool.and_true]
      simp only [runs, hstart, List.isEmpty_cons, Bool.not_false, Bool.true_and, Bool.not_eq_true',
        beq_eq_false_iff_ne, ne_eq, reduceCtorEq, not_false_eq_true, true_and, List.head?_cons,
        Option.some.injEq]
      exact ⟨Ne.symm, Ne.symm⟩

/-! ### Running them -/

variable {x : Executor}

/-- The first line is run, and then the others in the session that it left. -/
theorem runLines_cons (l : Nat × Text) (ls : List (Nat × Text)) (s : Session) :
    runLines x (l :: ls) s =
      (⟨(runLines x ls (Dispatch.run x l.2 s).2).1.lines + 1,
        (Dispatch.run x l.2 s).1.errors.map ((l.1, ·)) ++
          (runLines x ls (Dispatch.run x l.2 s).2).1.errors⟩,
        (runLines x ls (Dispatch.run x l.2 s).2).2) := rfl

theorem runLines_append (as bs : List (Nat × Text)) (s : Session) :
    runLines x (as ++ bs) s =
      (⟨(runLines x as s).1.lines + (runLines x bs (runLines x as s).2).1.lines,
        (runLines x as s).1.errors ++ (runLines x bs (runLines x as s).2).1.errors⟩,
        (runLines x bs (runLines x as s).2).2) := by
  induction as generalizing s with
  | nil => simp [runLines]
  | cons a as ih =>
      rw [List.cons_append, runLines_cons, ih, runLines_cons]
      simp only [List.append_assoc, Nat.add_right_comm]

/-- Numbers do not matter to what is run. -/
theorem runLines_renumber (k : Nat) (ls : List (Nat × Text)) (s : Session) :
    runLines x (ls.map (renumber k)) s =
      (⟨(runLines x ls s).1.lines, (runLines x ls s).1.errors.map (renumber k)⟩,
        (runLines x ls s).2) := by
  induction ls generalizing s with
  | nil => rfl
  | cons l ls ih =>
      rw [List.map_cons, runLines_cons, renumber, ih, runLines_cons, List.map_append, List.map_map]
      rfl

/-- Every line is run in the session that the line before it left. -/
theorem runLines_eq (ls : List (Nat × Text)) (s : Session) :
    (runLines x ls s).1.lines = ls.length ∧
      (runLines x ls s).1.errors.map (·.2) =
        Dispatch.errorsOf (Dispatch.runEach x (ls.map (·.2)) s) ∧
      (runLines x ls s).2 = Dispatch.after x (ls.map (·.2)) s := by
  induction ls generalizing s with
  | nil => exact ⟨rfl, rfl, rfl⟩
  | cons l ls ih =>
      obtain ⟨hlines, herrors, hsession⟩ := ih (Dispatch.run x l.2 s).2
      refine ⟨congrArg (· + 1) hlines, ?_, hsession⟩
      rw [runLines_cons, List.map_append, List.map_map, herrors]
      exact congrArg (· ++ _) (List.map_id _)

/-- A failure has the number of a line that was run. -/
theorem mem_runLines {ls : List (Nat × Text)} {s : Session} {f : Nat × CommandError}
    (h : f ∈ (runLines x ls s).1.errors) : ∃ l ∈ ls, l.1 = f.1 := by
  induction ls generalizing s with
  | nil => cases h
  | cons l ls ih =>
      rcases List.mem_append.mp h with hl | hls
      · obtain ⟨e, -, rfl⟩ := List.mem_map.mp hl
        exact ⟨l, List.mem_cons_self, rfl⟩
      · obtain ⟨m, hm, hf⟩ := ih hls
        exact ⟨m, List.mem_cons_of_mem l hm, hf⟩

/-- The failures of a line have one number, and those of later lines a greater one. -/
theorem runLines_ascend {ls : List (Nat × Text)} (h : ls.Pairwise fun l m => l.1 < m.1)
    (s : Session) : (runLines x ls s).1.errors.Pairwise fun f g => f.1 ≤ g.1 := by
  induction ls generalizing s with
  | nil => exact .nil
  | cons l ls ih =>
      obtain ⟨hl, hls⟩ := List.pairwise_cons.mp h
      refine List.pairwise_append.mpr ⟨?_, ih hls _, fun f hf g hg => ?_⟩
      · exact List.pairwise_map.mpr (List.pairwise_of_forall fun _ _ => Nat.le_refl _)
      · obtain ⟨e, -, rfl⟩ := List.mem_map.mp hf
        obtain ⟨m, hm, hg⟩ := mem_runLines hg
        exact hg ▸ Nat.le_of_lt (hl m hm)

/-- A text is run line by line, whatever its lines come to. -/
theorem sourceText_eq (x : Executor) (content : Text) (s : Session) :
    (sourceText x content s).1.lines = (runningLines content).length ∧
      (sourceText x content s).1.errors.map (·.2) =
        Dispatch.errorsOf (Dispatch.runEach x (runningLines content) s) ∧
      (sourceText x content s).2 = Dispatch.after x (runningLines content) s := by
  have h := runLines_eq (x := x) (numberedLines content) s
  have hlength : (numberedLines content).length = (runningLines content).length := by
    rw [← List.length_map (·.2), numberedLines_lines]
    rfl
  rw [numberedLines_lines, hlength] at h
  exact h

/-- A text in two parts is run part by part, and the second part counts its lines on from the
first. -/
theorem sourceText_append (x : Executor) (a b : Text) (s : Session) :
    sourceText x (a ++ '\n' :: b) s =
      (⟨(sourceText x a s).1.lines + (sourceText x b (sourceText x a s).2).1.lines,
        (sourceText x a s).1.errors ++
          (sourceText x b (sourceText x a s).2).1.errors.map (renumber (1 + a.count '\n'))⟩,
        (sourceText x b (sourceText x a s).2).2) := by
  unfold sourceText
  rw [numberedLines_append, runLines_append, runLines_renumber]

/-- Failures have the numbers of lines that were run. -/
theorem physicalLine_of_mem {content : Text} {s : Session} {f : Nat × CommandError}
    (h : f ∈ (sourceText x content s).1.errors) :
    1 ≤ f.1 ∧ ∃ line, (physicalLines content)[f.1 - 1]? = some line ∧
      line.trim ≠ [] ∧ line.trim.head? ≠ some '#' := by
  obtain ⟨⟨n, t⟩, hmem, rfl⟩ := mem_runLines h
  obtain ⟨hle, hruns, line, hline, rfl⟩ := mem_numberedLines hmem
  exact ⟨hle, line, hline, (runs_iff _).mp hruns⟩

/-- Lines of which none exits may stand on one line. -/
theorem run_runningLines {content : Text} {s : Session}
    (h : ∀ o ∈ Dispatch.runEach x (runningLines content) s, o.1.exit = none) :
    Dispatch.run x (joinedLines (runningLines content)) s =
      (⟨(sourceText x content s).1.errors.map (·.2), none⟩, (sourceText x content s).2) := by
  obtain ⟨-, herrors, hsession⟩ := sourceText_eq x content s
  rw [Dispatch.run_joinedLines, Dispatch.sequence_of_none_exits h, herrors, hsession]

/-- **A startup file is run to its end, line by line.**  A text in two parts is run part by part: the
second part runs in the session that the first one left, whatever its lines did, failures and exits
included, and its failures follow with numbers that count on.  Of every text just the lines run that
are neither blank nor comments, all of them in order; failures have the numbers of such lines, and
the numbers do not descend.  And if none of the lines exits, the same happens where they stand
trimmed on one line with a `;` between them. -/
theorem sourceText_compositional (x : Executor) (s : Session) :
    (∀ a b : Text, sourceText x (a ++ '\n' :: b) s =
      match sourceText x a s with
      | (ra, s') =>
        match sourceText x b s' with
        | (rb, s'') =>
          (⟨ra.lines + rb.lines,
            ra.errors ++ rb.errors.map fun f => (f.1 + (1 + a.count '\n'), f.2)⟩, s'')) ∧
      ∀ content : Text,
        (sourceText x content s).1.lines = (runningLines content).length ∧
        (sourceText x content s).2 = Dispatch.after x (runningLines content) s ∧
        (∀ f ∈ (sourceText x content s).1.errors,
          1 ≤ f.1 ∧ ∃ line, (physicalLines content)[f.1 - 1]? = some line ∧
            line.trim ≠ [] ∧ line.trim.head? ≠ some '#') ∧
        ((sourceText x content s).1.errors.map (·.1)).Pairwise (· ≤ ·) ∧
        ((∀ o ∈ Dispatch.runEach x (runningLines content) s, o.1.exit = none) →
          Dispatch.run x (joinedLines (runningLines content)) s =
            (⟨(sourceText x content s).1.errors.map (·.2), none⟩,
              (sourceText x content s).2)) := by
  refine ⟨fun a b => sourceText_append x a b s, fun content => ?_⟩
  obtain ⟨hlines, -, hsession⟩ := sourceText_eq x content s
  have hascend : (sourceText x content s).1.errors.Pairwise fun f g => f.1 ≤ g.1 :=
    runLines_ascend (numberedLines_ascend content) s
  exact ⟨hlines, hsession, fun f hf => physicalLine_of_mem hf, List.pairwise_map.mpr hascend,
    run_runningLines⟩

/-- The first part fails twice on one line and exits on another, and the second part goes on.  The
other text has lines that end in `\r\n`, a comment, and an alias that replaces itself. -/
theorem sourceText_compositional_exit :
    let x : Executor := ⟨Scripted.launcher ⟨["run"], [], [], []⟩, none⟩
    let s : Session := Session.fresh "/"
    let a : Text := "\nalias bogus; run; print x\nexit 4; print y"
    let b : Text := "# run\n\n print z ;cd /no"
    let content : Text := "alias add l=l\r\n  # run\r\n\tl; run\r\n\r\nvar X = 1; print $X"
    (∀ o ∈ Dispatch.runEach x (runningLines content) s, o.1.exit = none) ∧
      (sourceText x (a ++ '\n' :: b) s).1.lines = 3 ∧
      (sourceText x (a ++ '\n' :: b) s).1.errors.map (·.1) = [2, 2, 6] ∧
      (sourceText x content s).1.errors.map (·.1) = [3, 3] ∧
      Dispatch.run x "alias add l=l;l; run;var X = 1; print $X" s =
        (⟨(sourceText x content s).1.errors.map (·.2), none⟩, (sourceText x content s).2) := by
  intro x s a b content
  have hexit : ∀ o ∈ Dispatch.runEach x (runningLines content) s, o.1.exit = none := by
    decide +kernel
  obtain ⟨happend, htext⟩ := sourceText_compositional x s
  obtain ⟨-, -, -, -, hjoined⟩ := htext content
  have hline : joinedLines (runningLines content) =
      "alias add l=l;l; run;var X = 1; print $X".toList := by decide +kernel
  rw [hline] at hjoined
  refine ⟨hexit, ?_, ?_, by decide +kernel, hjoined hexit⟩
  · rw [happend a b]
    decide +kernel
  · rw [happend a b]
    decide +kernel

end Startup

end AliasShell
