/-
Which verbs are offered.

A completer knows three sets of verbs.  The builtins and the aliases are those that it was told
last.  The programs are those that it has found in the directories of `PATH`, and it looks for them
again only if `PATH` is another one or nothing was found the last time: `refreshOn_cases`.  So its
programs were found with the `PATH` that it was told last, and while the directories stay what they
are it makes no difference how often it has looked: `refresh_scan`.

Every verb that goes on as the word does is offered.  A program is left out if a builtin or an alias
of its name is offered already.  An alias is not, so a verb that is both a builtin and an alias is
offered twice, and no other verb is: `complete_verbs`.
-/
import AliasShell.Proofs.Completion.Paths
import Mathlib.Data.List.Nodup

namespace AliasShell

namespace VerbCompleter

/-! ### What a completer is told -/

/-- What a completer can be told. -/
inductive Call where
  | builtins (names : List Text)
  | aliases (names : List Text)
  /-- `PATH` is this one, and the directories are so -/
  | programs (d : Folders) (path : Option Text)

namespace Call

/-- The completer when it has been told. -/
def perform (v : VerbCompleter) : Call → VerbCompleter
  | .builtins names => v.setBuiltins names
  | .aliases names => v.setAliases names
  | .programs d path => v.refreshOn d path

/-- The builtins that are told. -/
def builtins? : Call → Option (List Text)
  | .builtins names => some names
  | .aliases _ | .programs _ _ => none

/-- The aliases that are told. -/
def aliases? : Call → Option (List Text)
  | .aliases names => some names
  | .builtins _ | .programs _ _ => none

end Call

/-- A new completer after calls. -/
def after (calls : List Call) : VerbCompleter := calls.foldl Call.perform empty

/-- The names that were told last, none if none were told. -/
def latest (told? : Call → Option (List Text)) (calls : List Call) : List Text :=
  (calls.filterMap told?).getLast?.getD []

theorem after_concat (calls : List Call) (c : Call) :
    after (calls ++ [c]) = c.perform (after calls) := by
  rw [after, List.foldl_append]
  rfl

/-- A set that every call replaces or leaves alone is the one that was told last. -/
theorem after_latest {get : VerbCompleter → TextSet} {told? : Call → Option (List Text)}
    (hempty : get empty = .ofList [])
    (hstep : ∀ v c, get (c.perform v) = ((told? c).map TextSet.ofList).getD (get v))
    (calls : List Call) : get (after calls) = .ofList (latest told? calls) := by
  induction calls using List.reverseRecOn with
  | nil => exact hempty
  | append_singleton calls c ih =>
      rw [after_concat, hstep, ih, latest, latest, List.filterMap_append]
      cases hc : told? c with
      | none => simp [hc]
      | some names => simp [hc]

/-- It is looked for programs, or they are known already. -/
theorem refreshOn_cases (v : VerbCompleter) (d : Folders) (path : Option Text) :
    v.scanned = path ∧ v.programs ≠ .empty ∧ v.refreshOn d path = v ∨
      v.refreshOn d path = { v with programs := scan d path, scanned := path } := by
  unfold refreshOn
  split
  · next h => exact Or.inl ⟨h.1, h.2, rfl⟩
  · exact Or.inr rfl

theorem refreshOn_others (v : VerbCompleter) (d : Folders) (path : Option Text) :
    (v.refreshOn d path).builtins = v.builtins ∧ (v.refreshOn d path).aliases = v.aliases := by
  rcases v.refreshOn_cases d path with ⟨-, -, h⟩ | h
  · rw [h]
    exact ⟨rfl, rfl⟩
  · rw [h]
    exact ⟨rfl, rfl⟩

theorem builtins_after (calls : List Call) :
    (after calls).builtins = .ofList (latest Call.builtins? calls) := by
  refine after_latest rfl (fun v c => ?_) calls
  cases c with
  | builtins names => rfl
  | aliases names => rfl
  | programs d path => exact (v.refreshOn_others d path).1

theorem aliases_after (calls : List Call) :
    (after calls).aliases = .ofList (latest Call.aliases? calls) := by
  refine after_latest rfl (fun v c => ?_) calls
  cases c with
  | builtins names => rfl
  | aliases names => rfl
  | programs d path => exact (v.refreshOn_others d path).2

/-! ### Where the programs come from -/

/-- Among the calls is one that has told of these directories and this `PATH`, and no later one has
told of another `PATH`. -/
def LookedAt (calls : List Call) (d : Folders) (path : Option Text) : Prop :=
  ∃ before later, calls = before ++ .programs d path :: later ∧
    ∀ d' path', Call.programs d' path' ∈ later → path' = path

theorem LookedAt.concat {calls : List Call} {d : Folders} {path : Option Text} {c : Call}
    (h : LookedAt calls d path) (hc : ∀ d' path', c = .programs d' path' → path' = path) :
    LookedAt (calls ++ [c]) d path := by
  obtain ⟨before, later, rfl, hlater⟩ := h
  refine ⟨before, later ++ [c], by simp, fun d' path' hmem => ?_⟩
  rcases List.mem_append.mp hmem with hmem | hmem
  · exact hlater d' path' hmem
  · exact hc d' path' (List.mem_singleton.mp hmem).symm

/-- The programs are those of a look at the `PATH` that was told last; there are none before the
first one. -/
def Found (calls : List Call) (v : VerbCompleter) : Prop :=
  (∀ d path, Call.programs d path ∉ calls) ∧ v.programs = .empty ∧ v.scanned = none ∨
    ∃ d path, LookedAt calls d path ∧ v.programs = scan d path ∧ v.scanned = path

theorem Found.concat {calls : List Call} {v v' : VerbCompleter} {c : Call} (h : Found calls v)
    (hc : ∀ d path, c ≠ .programs d path) (hprograms : v'.programs = v.programs)
    (hscanned : v'.scanned = v.scanned) : Found (calls ++ [c]) v' := by
  rw [Found, hprograms, hscanned]
  rcases h with ⟨hnone, hfound⟩ | ⟨d, path, hlooked, hfound⟩
  · refine Or.inl ⟨fun d path hmem => ?_, hfound⟩
    rcases List.mem_append.mp hmem with hmem | hmem
    · exact hnone d path hmem
    · exact hc d path (List.mem_singleton.mp hmem).symm
  · exact Or.inr ⟨d, path, hlooked.concat fun d' path' he => absurd he (hc d' path'), hfound⟩

/-- **The programs of a completer were found with the `PATH` that it was told last.** -/
theorem found_after (calls : List Call) : Found calls (after calls) := by
  induction calls using List.reverseRecOn with
  | nil => exact Or.inl ⟨fun _ _ => List.not_mem_nil, rfl, rfl⟩
  | append_singleton calls c ih =>
      rw [after_concat]
      cases c with
      | builtins names => exact ih.concat (fun _ _ he => by cases he) rfl rfl
      | aliases names => exact ih.concat (fun _ _ he => by cases he) rfl rfl
      | programs d path =>
          show Found _ ((after calls).refreshOn d path)
          rcases (after calls).refreshOn_cases d path with ⟨hsame, hsome, h⟩ | h
          · rw [h]
            rcases ih with ⟨-, hnone, -⟩ | ⟨d₀, path₀, hlooked, hprograms, hscanned⟩
            · exact absurd hnone hsome
            · refine Or.inr ⟨d₀, path₀, hlooked.concat fun d' path' he => ?_, hprograms, hscanned⟩
              cases he
              exact hsame.symm.trans hscanned
          · rw [h]
            exact Or.inr ⟨d, path, ⟨calls, [], rfl, fun _ _ hmem => absurd hmem List.not_mem_nil⟩,
              rfl, rfl⟩

/-- The directories hold a program of this name: one of those in `path` can be read, and a file or
a link stands in it under the encoding of the name. -/
def Holds (d : Folders) (path : Option Text) (name : Text) : Prop :=
  ∃ dirs, path = some dirs ∧ ∃ dir ∈ dirs.cut (· == ':'), ∃ entries, d dir = .ok entries ∧
    ((name.encode, .file) ∈ entries ∨ (name.encode, .link) ∈ entries)

theorem program?_eq_some_iff {e : Bytes × EntryKind} {name : Text} :
    program? e = some name ↔ e = (name.encode, .file) ∨ e = (name.encode, .link) := by
  obtain ⟨b, kind⟩ := e
  cases kind with
  | file => simp [program?, Bytes.decode?_eq_some_iff]
  | link => simp [program?, Bytes.decode?_eq_some_iff]
  | other => simp [program?]

theorem mem_programsIn {d : Folders} {dir name : Text} :
    name ∈ programsIn d dir ↔ ∃ entries, d dir = .ok entries ∧
      ((name.encode, .file) ∈ entries ∨ (name.encode, .link) ∈ entries) := by
  unfold programsIn
  cases d dir with
  | error e => simp
  | ok entries =>
      simp only [List.mem_filterMap, program?_eq_some_iff]
      constructor
      · rintro ⟨e, he, rfl | rfl⟩
        · exact ⟨entries, rfl, Or.inl he⟩
        · exact ⟨entries, rfl, Or.inr he⟩
      · rintro ⟨_, ⟨⟩, he | he⟩
        · exact ⟨_, he, Or.inl rfl⟩
        · exact ⟨_, he, Or.inr rfl⟩

/-- A look finds the programs in the directories. -/
theorem mem_scan {d : Folders} {path : Option Text} {name : Text} :
    name ∈ scan d path ↔ Holds d path name := by
  cases path with
  | none =>
      refine iff_of_false (TextSet.not_mem_empty name) ?_
      rintro ⟨_, ⟨⟩, -⟩
  | some dirs =>
      rw [scan, TextSet.mem_ofList, List.mem_flatMap]
      simp only [mem_programsIn, Holds, Option.some.injEq, exists_eq_left']

/-! ### What is offered -/

section

variable {v : VerbCompleter} {start name : Text}

theorem mem_otherPrograms : name ∈ v.otherPrograms start ↔
    (name ∈ v.programs ∧ start <+: name) ∧ name ∉ v.builtins ∧ name ∉ v.aliases := by
  rw [otherPrograms, List.mem_filter, TextSet.mem_startingWith]
  refine and_congr_right fun h => ?_
  simp only [Bool.not_eq_true', Bool.or_eq_false_iff, List.contains_eq_mem,
    decide_eq_false_iff_not, TextSet.mem_startingWith, h.2, and_true]

/-- The names that are offered, one for each candidate. -/
def offered (v : VerbCompleter) (start : Text) : List Text :=
  v.builtins.startingWith start ++ v.aliases.startingWith start ++ v.otherPrograms start

theorem replacements_complete (v : VerbCompleter) (start : Text) :
    (v.complete start).map (·.replacement) = (v.offered start).map (· ++ [' ']) := by
  simp only [complete, offered, List.map_append, List.map_map]
  rfl

/-- Every verb that is known and goes on so is offered, and no other one. -/
theorem mem_offered : name ∈ v.offered start ↔
    (name ∈ v.builtins ∨ name ∈ v.aliases ∨ name ∈ v.programs) ∧ start <+: name := by
  rw [offered, List.mem_append, List.mem_append, TextSet.mem_startingWith,
    TextSet.mem_startingWith, mem_otherPrograms]
  tauto

/-- A program has no name that is offered already, so only an alias can. -/
theorem nodup_offered_iff : (v.offered start).Nodup ↔
    ∀ n ∈ v.builtins, n ∈ v.aliases → ¬ start <+: n := by
  have hothers : (v.otherPrograms start).Nodup := (v.programs.nodup_startingWith start).filter _
  rw [offered, List.nodup_append, List.nodup_append]
  constructor
  · rintro ⟨⟨-, -, hnew⟩, -, -⟩ n hbuiltin halias hstart
    exact hnew n (TextSet.mem_startingWith.mpr ⟨hbuiltin, hstart⟩) n
      (TextSet.mem_startingWith.mpr ⟨halias, hstart⟩) rfl
  · intro h
    refine ⟨⟨v.builtins.nodup_startingWith start, v.aliases.nodup_startingWith start, ?_⟩,
      hothers, ?_⟩
    · rintro n hbuiltin _ halias rfl
      obtain ⟨hbuiltin, hstart⟩ := TextSet.mem_startingWith.mp hbuiltin
      exact h n hbuiltin (TextSet.mem_startingWith.mp halias).1 hstart
    · rintro n hn _ hother rfl
      obtain ⟨-, hbuiltin, halias⟩ := mem_otherPrograms.mp hother
      rcases List.mem_append.mp hn with hn | hn
      · exact hbuiltin (TextSet.mem_startingWith.mp hn).1
      · exact halias (TextSet.mem_startingWith.mp hn).1

/-- Both candidates put in the same, and so they are a builtin and an alias of one name. -/
def Shadowed (v : VerbCompleter) (a b : Candidate) : Prop :=
  ∃ n, n ∈ v.builtins ∧ n ∈ v.aliases ∧ a = candidate n n ∧ b = candidate (n ++ " (alias)") n

theorem pairwise_complete (v : VerbCompleter) (start : Text) :
    (v.complete start).Pairwise fun a b => a.replacement = b.replacement → v.Shadowed a b := by
  have hsame : ∀ {d d' n n' : Text}, (candidate d n).replacement = (candidate d' n').replacement →
      n = n' := fun h => List.append_cancel_right h
  -- no name comes twice in what stands in one of the three parts
  have hpart : ∀ {ns : List Text} (show' : Text → Text), ns.Nodup →
      (ns.map fun n => candidate (show' n) n).Pairwise fun a b =>
        a.replacement = b.replacement → v.Shadowed a b := by
    intro ns show' hns
    exact List.pairwise_map.mpr (hns.imp fun hne heq => absurd (hsame heq) hne)
  have hothers : (v.otherPrograms start).Nodup := (v.programs.nodup_startingWith start).filter _
  rw [complete, List.pairwise_append, List.pairwise_append]
  refine ⟨⟨hpart id (v.builtins.nodup_startingWith start),
    hpart (· ++ " (alias)") (v.aliases.nodup_startingWith start), ?_⟩, hpart id hothers, ?_⟩
  · intro a ha b hb heq
    obtain ⟨n, hn, rfl⟩ := List.mem_map.mp ha
    obtain ⟨n', hn', rfl⟩ := List.mem_map.mp hb
    obtain rfl := hsame heq
    exact ⟨n, (TextSet.mem_startingWith.mp hn).1, (TextSet.mem_startingWith.mp hn').1, rfl, rfl⟩
  · intro a ha b hb heq
    obtain ⟨n', hn', rfl⟩ := List.mem_map.mp hb
    obtain ⟨-, hbuiltin, halias⟩ := mem_otherPrograms.mp hn'
    rcases List.mem_append.mp ha with ha | ha
    · obtain ⟨n, hn, rfl⟩ := List.mem_map.mp ha
      obtain rfl := hsame heq
      exact absurd (TextSet.mem_startingWith.mp hn).1 hbuiltin
    · obtain ⟨n, hn, rfl⟩ := List.mem_map.mp ha
      obtain rfl := hsame heq
      exact absurd (TextSet.mem_startingWith.mp hn).1 halias

end

/-- **Every verb that is known and goes on as the word does is offered, and only a verb that is both
a builtin and an alias is offered twice.**  Known are the builtins and the aliases that were told
last, and the programs that were found with the last `PATH`.  What is put in is the verb and a
space.  Two candidates that put in the same are a builtin and an alias of one name, so there are no
such two exactly if no builtin that goes on so is an alias. -/
theorem complete_verbs (calls : List Call) (start : Text) :
    let v := after calls
    (∀ n, n ∈ v.builtins ↔ n ∈ latest Call.builtins? calls) ∧
      (∀ n, n ∈ v.aliases ↔ n ∈ latest Call.aliases? calls) ∧
      Found calls v ∧
      (∀ r, r ∈ (v.complete start).map (·.replacement) ↔
        ∃ n, (n ∈ v.builtins ∨ n ∈ v.aliases ∨ n ∈ v.programs) ∧ start <+: n ∧ r = n ++ [' ']) ∧
      ((v.complete start).Pairwise fun a b => a.replacement = b.replacement → v.Shadowed a b) ∧
      (((v.complete start).map (·.replacement)).Nodup ↔
        ∀ n ∈ v.builtins, n ∈ v.aliases → ¬ start <+: n) := by
  intro v
  refine ⟨fun n => ?_, fun n => ?_, found_after calls, fun r => ?_, v.pairwise_complete start, ?_⟩
  · rw [show v.builtins = _ from builtins_after calls, TextSet.mem_ofList]
  · rw [show v.aliases = _ from aliases_after calls, TextSet.mem_ofList]
  · rw [replacements_complete, List.mem_map]
    constructor
    · rintro ⟨n, hn, rfl⟩
      obtain ⟨hknown, hstart⟩ := mem_offered.mp hn
      exact ⟨n, hknown, hstart, rfl⟩
    · rintro ⟨n, hknown, hstart, rfl⟩
      exact ⟨n, mem_offered.mpr ⟨hknown, hstart⟩, rfl⟩
  · rw [replacements_complete,
      List.nodup_map_iff fun a b (h : a ++ [' '] = b ++ [' ']) => List.append_cancel_right h,
      nodup_offered_iff]

/-- An alias with the name of a builtin is offered beside it, and puts in the same. -/
theorem complete_verbs_twice :
    let v := after [.builtins ["ls"], .aliases ["ls"]]
    v.complete "l" = [⟨"ls", "ls "⟩, ⟨"ls (alias)", "ls "⟩] ∧
      ¬ ((v.complete "l").map (·.replacement)).Nodup := by
  decide

/-! ### What is found again -/

/-- The programs are what a look at the directories would find now. -/
def Fresh (d : Folders) (v : VerbCompleter) : Prop := v.programs = scan d v.scanned

/-- As long as the directories stay what they are, it makes no difference whether they are looked at
again. -/
theorem Fresh.refreshOn {d : Folders} {v : VerbCompleter} (h : Fresh d v) (path : Option Text) :
    v.refreshOn d path = { v with programs := scan d path, scanned := path } := by
  rcases v.refreshOn_cases d path with ⟨rfl, -, hsame⟩ | hlooked
  · rw [hsame, ← show v.programs = scan d v.scanned from h]
  · exact hlooked

theorem fresh_after (d : Folders) (paths : List (Option Text)) :
    Fresh d (after (paths.map (Call.programs d))) := by
  induction paths using List.reverseRecOn with
  | nil => rfl
  | append_singleton paths path ih =>
      rw [List.map_append, List.map_singleton, after_concat]
      show Fresh d (VerbCompleter.refreshOn _ d path)
      rw [ih.refreshOn]
      rfl

/-- Where there are no other verbs, the programs are offered in order. -/
theorem complete_of_only_programs {v : VerbCompleter} (hbuiltins : v.builtins = .empty)
    (haliases : v.aliases = .empty) (start : Text) :
    v.complete start = (v.programs.startingWith start).map fun n => candidate n n := by
  have hnone : TextSet.empty.startingWith start = [] := rfl
  have hothers : v.otherPrograms start = v.programs.startingWith start := by
    rw [otherPrograms, hbuiltins, haliases, hnone]
    exact List.filter_eq_self.mpr fun _ _ => rfl
  rw [complete, hbuiltins, haliases, hnone, hothers]
  rfl

theorem programs_refreshed (d : Folders) (paths : List (Option Text)) (path : Option Text) :
    (after ((paths ++ [path]).map (Call.programs d))).programs = scan d path := by
  rw [List.map_append, List.map_singleton, after_concat]
  show (VerbCompleter.refreshOn _ d path).programs = _
  rw [(fresh_after d paths).refreshOn]

theorem complete_refreshed (d : Folders) (paths : List (Option Text)) (path : Option Text)
    (start : Text) :
    (after ((paths ++ [path]).map (Call.programs d))).complete start =
      ((scan d path).startingWith start).map fun n => candidate n n := by
  have hnothing : ∀ told? : Call → Option (List Text), (∀ p, told? (.programs d p) = none) →
      latest told? ((paths ++ [path]).map (Call.programs d)) = [] := by
    intro told? htold
    have hnil : List.filterMap (told? ∘ Call.programs d) (paths ++ [path]) = [] :=
      List.filterMap_eq_nil_iff.mpr fun p _ => htold p
    rw [latest, List.filterMap_map, hnil]
    rfl
  rw [complete_of_only_programs, programs_refreshed]
  · rw [builtins_after, hnothing _ fun _ => rfl]
    rfl
  · rw [aliases_after, hnothing _ fun _ => rfl]
    rfl

/-- **However often it has looked, a completer knows the programs of the last `PATH`**, and offers
what one that has looked once offers: each program that goes on as the word does, in order.  The
programs are the files and the links in the directories of `PATH` that can be read, as far as their
names are text, and without a `PATH` there are none. -/
theorem refresh_scan (d : Folders) (paths : List (Option Text)) (path : Option Text)
    (start : Text) :
    let v := after ((paths ++ [path]).map (Call.programs d))
    v.programs = scan d path ∧ v.complete start = (empty.refreshOn d path).complete start ∧
      (v.complete start).Pairwise (fun a b => a.display < b.display) ∧
      (∀ cand, cand ∈ v.complete start ↔
        ∃ name, Holds d path name ∧ start <+: name ∧ cand = ⟨name, name ++ [' ']⟩) ∧
      (path = none → v.complete start = []) := by
  intro v
  have hcomplete : v.complete start = _ := complete_refreshed d paths path start
  have honce : (empty.refreshOn d path).complete start = _ := complete_refreshed d [] path start
  rw [hcomplete, honce]
  refine ⟨programs_refreshed d paths path, rfl, ?_, fun cand => ?_, ?_⟩
  · exact List.pairwise_map.mpr (TextSet.ascending_startingWith _ start)
  · rw [List.mem_map]
    constructor
    · rintro ⟨name, hname, rfl⟩
      obtain ⟨hfound, hstart⟩ := TextSet.mem_startingWith.mp hname
      exact ⟨name, mem_scan.mp hfound, hstart, rfl⟩
    · rintro ⟨name, hheld, hstart, rfl⟩
      exact ⟨name, TextSet.mem_startingWith.mpr ⟨mem_scan.mpr hheld, hstart⟩, rfl⟩
  · rintro rfl
    rfl

end VerbCompleter

end AliasShell
