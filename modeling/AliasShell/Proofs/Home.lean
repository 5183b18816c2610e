/-
The home directory.

A path from the home is the home with names under it: those that stand between the
separators of what was typed, one below the other.  `below` is this path, put together at
once, and `expand_some` says that it is what becomes of every path from the home.  An
argument of a program becomes the same if it is such a path, and is left alone if it is
not: `expandArg_agrees`.

`cd ~` goes to the home as it is set.  `cd` takes the text of the home for a path that was
typed, so that it is expanded once more.  For some texts this makes a difference, and
`Steady` says for which: `run_home`.
-/
import AliasShell.Proofs.Dispatch.Variables
import AliasShell.Proofs.Paths

namespace AliasShell

namespace Path

/-! ### Names under a directory -/

/-- The names in a path: what stands between its separators, if anything does. -/
def names (p : Text) : List Text := (p.cut isSeparator).filter fun part => !part.isEmpty

/-- The path of the names, one below the other, under `base`. -/
def below (base : Text) (ns : List Text) : Text :=
  if ns = [] then base else lead base ++ ['/'].intercalate ns

theorem isName_of_mem_names {p n : Text} (h : n ∈ names p) : IsName n := by
  obtain ⟨hcut, hne⟩ := List.mem_filter.mp h
  exact ⟨by simpa using hne, Text.mem_cut hcut⟩

theorem names_cons_separator {c : Char} (hc : isSeparator c = true) (p : Text) :
    names (c :: p) = names p := by
  rw [names, Text.cut, if_pos hc, List.filter_cons_of_neg (by simp), names]

theorem prefix_lead (base : Text) : base <+: lead base := by
  unfold lead
  split
  · exact List.prefix_rfl
  · exact List.prefix_append base ['/']

/-- The path begins with the directory that the names are under. -/
theorem prefix_below (base : Text) (ns : List Text) : base <+: below base ns := by
  unfold below
  split
  · exact List.prefix_rfl
  · exact (prefix_lead base).trans (List.prefix_append _ _)

theorem IsName.lead_eq {n : Text} (h : IsName n) : lead n = n ++ ['/'] := by
  have hlast : n.getLast? ≠ some '/' := by
    intro hlast
    have hslash := h.solid '/' (List.mem_of_getLast? hlast)
    cases hslash
  rw [lead, if_neg]
  simp [h.ne_nil, hlast]

/-- Hanging names on a directory one after another. -/
theorem foldl_join {ns : List Text} (h : ∀ n ∈ ns, IsName n) (base : Text) :
    ns.foldl join base = below base ns := by
  induction ns generalizing base with
  | nil => rfl
  | cons n ns ih =>
      have hn : IsName n := h n List.mem_cons_self
      rw [List.foldl_cons, ih (fun m hm => h m (List.mem_cons_of_mem n hm)),
        join_of_relative base hn.isAbsolute]
      cases ns with
      | nil => simp [below]
      | cons m ms =>
          rw [below, if_neg (List.cons_ne_nil m ms), below, if_neg (List.cons_ne_nil n (m :: ms)),
            lead_append hn.ne_nil, hn.lead_eq, List.intercalate_cons_cons]
          simp only [List.append_assoc]

theorem descend_eq (base rest : Text) : descend base rest = below base (names rest) :=
  foldl_join (fun _ => isName_of_mem_names) base

/-! ### Paths from the home -/

theorem isHomePath_iff {p : Text} :
    isHomePath p = true ↔ p = ['~'] ∨ ∃ c rest, isSeparator c = true ∧ p = '~' :: c :: rest := by
  unfold isHomePath
  split
  · simp
  · simp
  · next hone hmore =>
      simp only [Bool.false_eq_true, false_iff, not_or]
      exact ⟨hone, fun ⟨c, rest, _, hp⟩ => hmore c rest hp⟩

theorem expandTilde_some {p : Text} (hp : isHomePath p = true) (h : Text) :
    expandTilde (some h) p = .ok (below h (names (p.drop 1))) := by
  obtain rfl | ⟨c, rest, hc, rfl⟩ := isHomePath_iff.mp hp
  · rfl
  · show (if isSeparator c then _ else _) = _
    rw [if_pos hc]
    show Except.ok (descend h rest) = Except.ok (below h (names (c :: rest)))
    rw [descend_eq, names_cons_separator hc]

/-- Without a home such a path means nothing. -/
theorem expandTilde_none {p : Text} (hp : isHomePath p = true) :
    expandTilde none p = .error .homeNotFound := by
  obtain rfl | ⟨c, rest, hc, rfl⟩ := isHomePath_iff.mp hp
  · rfl
  · exact if_pos hc

theorem cut_normalize (p : Text) : (normalize p).cut isSeparator = p.cut isSeparator := by
  induction p with
  | nil => rfl
  | cons c cs ih =>
      rw [normalize, List.map_cons, ← normalize, Text.cut, ih, Text.cut]
      cases hc : isSeparator c with
      | true => rfl
      | false => simp [hc]

/-- Which separators were typed makes no difference to the names. -/
theorem names_normalize (p : Text) : names (normalize p) = names p := by
  rw [names, cut_normalize, names]

theorem isHomePath_normalize {p : Text} (hp : isHomePath p = true) :
    isHomePath (normalize p) = true ∧ normalize p = '~' :: normalize (p.drop 1) := by
  obtain rfl | ⟨c, rest, hc, rfl⟩ := isHomePath_iff.mp hp
  · exact ⟨rfl, rfl⟩
  · have hnorm : normalize ('~' :: c :: rest) = '~' :: '/' :: normalize rest := by
      simp [normalize, hc, show isSeparator '~' = false from rfl]
    rw [hnorm]
    refine ⟨rfl, ?_⟩
    simp [normalize, hc]

/-- What is not from the home has its separators changed and nothing else. -/
theorem expand_of_not_isHomePath {p : Text} (hp : isHomePath p = false) (home : Option Text) :
    expand home p = .ok (normalize p) := by
  unfold expand
  simp only
  split
  · next htilde =>
      -- it begins with `~` all the same, so that a name follows
      cases p with
      | nil => cases htilde
      | cons c cs =>
          have hc : c = '~' := by
            by_cases hsep : isSeparator c = true
            · simp [normalize, hsep] at htilde
            · simpa [normalize, hsep] using htilde
          subst hc
          cases cs with
          | nil => cases hp
          | cons d ds =>
              have hd : isSeparator d = false := hp
              have hnorm : normalize ('~' :: d :: ds) = '~' :: d :: normalize ds := by
                simp [normalize, hd, show isSeparator '~' = false from rfl]
              rw [hnorm]
              show (if isSeparator d then _ else _) = _
              rw [if_neg (by simp [hd])]
  · rfl

/-- **What becomes of a path where there is a home.** -/
theorem expand_some (h p : Text) :
    expand (some h) p = .ok (if isHomePath p then below h (names (p.drop 1)) else normalize p) := by
  cases hp : isHomePath p with
  | false => exact expand_of_not_isHomePath hp (some h)
  | true =>
      obtain ⟨hnorm, htilde⟩ := isHomePath_normalize hp
      unfold expand
      simp only
      rw [if_pos (by simp [htilde]), expandTilde_some hnorm, htilde, List.drop_succ_cons,
        List.drop_zero, names_normalize]
      rfl

/-- **An argument from the home becomes the path that it means, the home with names under it, and
every other argument stays what it is.** -/
theorem expandArg_agrees (arg : Text) :
    (∀ h, isHomePath arg = true →
      expand (some h) arg = .ok (expandArg (some h) arg) ∧
      expandArg (some h) arg = below h (names (arg.drop 1)) ∧
      h <+: expandArg (some h) arg) ∧
    ∀ home, home = none ∨ isHomePath arg = false → expandArg home arg = arg := by
  refine ⟨fun h harg => ?_, fun home hno => ?_⟩
  · have hbelow : expandArg (some h) arg = below h (names (arg.drop 1)) := by
      rw [expandArg, if_pos harg, expandTilde_some harg]
    rw [expand_some, if_pos harg, hbelow]
    exact ⟨rfl, rfl, prefix_below h _⟩
  · unfold expandArg
    split
    · next harg =>
        obtain rfl : home = none := hno.resolve_right (by simp [harg])
        rw [expandTilde_none harg]
    · rfl

/-- Separators of both kinds, repeated and at the end, and a home that looks as if it had to be
expanded itself; and the same argument without a home, and a user's. -/
theorem expandArg_agrees_mixed :
    let arg : Text := "~\\é\\/b//c\\"
    let home : Text := "~\\h"
    isHomePath arg = true ∧ expand (some home) arg = .ok "~\\h/é/b/c" ∧
      expandArg (some home) arg = "~\\h/é/b/c".toList ∧
      expandArg none arg = arg ∧ expandArg (some home) "~user\\x" = "~user\\x".toList := by
  intro arg home
  have harg : isHomePath arg = true := rfl
  have hplain : isHomePath "~user\\x" = false := rfl
  have hbelow : below home (names (arg.drop 1)) = "~\\h/é/b/c".toList := rfl
  obtain ⟨hexpand, hpath, -⟩ := (expandArg_agrees arg).1 home harg
  rw [hpath, hbelow] at hexpand
  exact ⟨harg, hexpand, hpath.trans hbelow, (expandArg_agrees arg).2 none (Or.inl rfl),
    (expandArg_agrees _).2 (some home) (Or.inr hplain)⟩

/-! ### A home that is expanded -/

/-- What the text of a home is expanded to where that home is set. -/
def reread (h : Text) : Text :=
  if isHomePath h then below h (names (h.drop 1)) else normalize h

theorem expand_self (h : Text) : expand (some h) h = .ok (reread h) := expand_some h h

/-- Expanding the text of a home does nothing to it: it is not from the home itself, with names
under it, and its separators are all `/`. -/
def Steady (h : Text) : Prop := if isHomePath h then names (h.drop 1) = [] else '\\' ∉ h

instance (h : Text) : Decidable (Steady h) := inferInstanceAs (Decidable (ite _ _ _))

theorem below_eq_self_iff {base : Text} {ns : List Text} (h : ∀ n ∈ ns, IsName n) :
    below base ns = base ↔ ns = [] := by
  refine ⟨fun hsame => ?_, fun hnil => if_pos hnil⟩
  cases ns with
  | nil => rfl
  | cons n ns =>
      obtain ⟨c, cs, hn, -⟩ := (h n List.mem_cons_self).head
      obtain ⟨front, hfront⟩ := prefix_lead base
      rw [below, if_neg (List.cons_ne_nil n ns), ← hfront, List.append_assoc] at hsame
      have hnil := (List.append_eq_nil_iff.mp (List.append_right_eq_self.mp hsame)).2
      rw [hn] at hnil
      cases ns with
      | nil => cases hnil
      | cons m ms => cases hnil

theorem normalize_eq_self_iff {p : Text} : normalize p = p ↔ '\\' ∉ p := by
  induction p with
  | nil => simp [normalize]
  | cons c cs ih =>
      rw [normalize, List.map_cons, ← normalize, List.cons.injEq, ih, List.mem_cons, not_or]
      refine and_congr_left fun _ => ?_
      by_cases hc : c = '\\'
      · subst hc
        decide
      · refine iff_of_true ?_ (Ne.symm hc)
        split
        · next hsep => exact (show c = '/' by simpa [isSeparator, hc] using hsep).symm
        · rfl

theorem reread_eq_self_iff {h : Text} : reread h = h ↔ Steady h := by
  unfold reread Steady
  split
  · exact below_eq_self_iff fun _ => isName_of_mem_names
  · exact normalize_eq_self_iff

theorem isAbsolute_of_isHomePath {p : Text} (h : isHomePath p = true) : isAbsolute p = false := by
  obtain rfl | ⟨c, rest, -, rfl⟩ := isHomePath_iff.mp h
  · rfl
  · rfl

theorem suffix_join (base p : Text) : p <:+ join base p := by
  rw [join_eq]
  split
  · exact List.suffix_rfl
  · exact List.suffix_append _ p

/-- What is not steady is not led to the same place, wherever it is seen from. -/
theorem join_reread_iff {base h : Text} : join base (reread h) = join base h ↔ Steady h := by
  rw [← reread_eq_self_iff]
  refine ⟨fun hsame => ?_, fun hsame => by rw [hsame]⟩
  unfold reread at *
  split at hsame
  · next hhome =>
      rw [if_pos hhome]
      have hrel : isAbsolute h = false := isAbsolute_of_isHomePath hhome
      have hne : h ≠ [] := by
        rintro rfl
        cases hhome
      have hbelow : isAbsolute (below h (names (h.drop 1))) = false := by
        obtain ⟨rest, hrest⟩ := prefix_below h (names (h.drop 1))
        rw [← hrest, isAbsolute_append hne, hrel]
      rw [join_of_relative base hbelow, join_of_relative base hrel] at hsame
      exact List.append_cancel_left hsame
  · next hhome =>
      rw [if_neg hhome]
      -- texts of one length at the end of the same one
      have hlength : (normalize h).length = h.length := List.length_map _
      have hsuffix : normalize h <:+ join base h := hsame ▸ suffix_join base (normalize h)
      exact (List.suffix_of_suffix_length_le hsuffix (suffix_join base h)
        (Nat.le_of_eq hlength)).eq_of_length hlength

end Path

/-! ### Going home -/

namespace Builtin.Cd

/-- Two outcomes of going somewhere in `s`: both go to the same session, or both stay. -/
inductive SameWay (s : Session) : Outcome → Outcome → Prop
  | there (s' : Session) : SameWay s s'.done s'.done
  | stay (e e' : CommandError) : SameWay s (s.fail e) (s.fail e')

theorem SameWay.cwd_eq {s : Session} {o o' : Outcome} (h : SameWay s o o') :
    o.1.cwd = o'.1.cwd := by
  cases h with
  | there _ => rfl
  | stay _ _ => rfl

theorem wanted?_congr {a b : List Text} {s : Session}
    (h : s.resolve (target a s.home) = s.resolve (target b s.home)) :
    wanted? a s = wanted? b s := by
  unfold wanted?
  rw [h]

theorem Went.sameWay {a b : List Text} {s : Session} {wanted : Option Environment.Change}
    {o o' : Outcome} (ha : Went a s wanted o) (hb : Went b s wanted o') : SameWay s o o' := by
  cases ha with
  | nowhere e => cases hb with | nowhere e' => exact .stay e e'
  | refused _ set =>
      cases hb with
      | refused _ _ => exact .stay _ _
      | there _ set' => rw [set] at set'; cases set'
  | there _ set =>
      cases hb with
      | refused _ set' => rw [set] at set'; cases set'
      | there _ set' =>
          rw [set] at set'
          cases set'
          exact .there _

/-- What the arguments are resolved to is all that counts. -/
theorem sameWay_of_resolve {a b : List Text} {s : Session}
    (h : s.resolve (target a s.home) = s.resolve (target b s.home)) :
    SameWay s (run a s) (run b s) := by
  have hwent := went_run a s
  rw [wanted?_congr h] at hwent
  exact hwent.sameWay (went_run b s)

section

variable {s : Session} {h : Text}

/-- `cd ~` goes by the home as it is set. -/
theorem resolve_tilde (hs : s.home = some h) :
    s.resolve (target ["~"] s.home) = .ok (Path.join s.cwd h) := by
  show (Path.expand s.home ['~']).map (Path.join s.cwd) = _
  rw [hs]
  rfl

/-- Without an argument, `cd` goes by the text of the home, which is expanded once more. -/
theorem resolve_nothing (hs : s.home = some h) :
    s.resolve (target [] s.home) = .ok (Path.join s.cwd (Path.reread h)) := by
  rw [Session.resolve, hs, show target [] (some h) = h from rfl, Path.expand_self]
  rfl

/-- **`cd` without an argument is `cd ~`, wherever the text of the home is steady.**  It is the
same path then, and it is not if it is not steady. -/
theorem run_home (hs : s.home = some h) :
    s.resolve (target ["~"] s.home) = .ok (Path.join s.cwd h) ∧
    s.resolve (target [] s.home) = .ok (Path.join s.cwd (Path.reread h)) ∧
    (s.resolve (target [] s.home) = s.resolve (target ["~"] s.home) ↔ Path.Steady h) ∧
    (Path.Steady h → SameWay s (run [] s) (run ["~"] s)) := by
  have hiff : s.resolve (target [] s.home) = s.resolve (target ["~"] s.home) ↔ Path.Steady h := by
    rw [resolve_nothing hs, resolve_tilde hs, Except.ok.injEq, Path.join_reread_iff]
  exact ⟨resolve_tilde hs, resolve_nothing hs, hiff, fun hsteady =>
    sameWay_of_resolve (hiff.mpr hsteady)⟩

end

/-- A home that is itself a path from the home, but without names. -/
theorem run_home_steady :
    let s : Session := { Session.fresh "/" with
      home := some "~//"
      files := { nodes := [(["~".toList], .ofDir 0)], current := [] } }
    SameWay s (run [] s) (run ["~"] s) ∧
      (run [] s).1.cwd = "/~".toList ∧ (run ["~"] s).1.env.get? workingDir = some "/~".toList := by
  intro s
  have hs : s.home = some "~//" := rfl
  exact ⟨(run_home hs).2.2.2 (by decide), rfl, rfl⟩

/-- A home with a backslash in its name, and one that is a path from the home: without an argument
`cd` goes somewhere else. -/
theorem run_home_unsteady :
    let s (home : Text) : Session := { Session.fresh "/" with
      home := some home
      files := {
        nodes := [["a"], ["a", "b"], ["a\\b"], ["~"], ["~", "x"], ["~", "x", "x"]].map
          fun (names : List String) => (names.map (·.toList), .ofDir 0)
        current := [] } }
    ((run [] (s "/a\\b")).1.cwd = "/a/b".toList ∧
      (run ["~"] (s "/a\\b")).1.cwd = "/a\\b".toList ∧
      ¬ SameWay (s "/a\\b") (run [] (s "/a\\b")) (run ["~"] (s "/a\\b"))) ∧
    (run [] (s "~/x")).1.cwd = "/~/x/x".toList ∧ (run ["~"] (s "~/x")).1.cwd = "/~/x".toList ∧
      ¬ SameWay (s "~/x") (run [] (s "~/x")) (run ["~"] (s "~/x")) := by
  intro s
  have hback : (run [] (s "/a\\b")).1.cwd = "/a/b".toList ∧
      (run ["~"] (s "/a\\b")).1.cwd = "/a\\b".toList := by
    decide +kernel
  have htilde : (run [] (s "~/x")).1.cwd = "/~/x/x".toList ∧
      (run ["~"] (s "~/x")).1.cwd = "/~/x".toList := by
    decide +kernel
  refine ⟨⟨hback.1, hback.2, fun hsame => ?_⟩, htilde.1, htilde.2, fun hsame => ?_⟩
  · have hdirs := hsame.cwd_eq
    rw [hback.1, hback.2] at hdirs
    exact absurd hdirs (by decide)
  · have hdirs := hsame.cwd_eq
    rw [htilde.1, htilde.2] at hdirs
    exact absurd hdirs (by decide)

end Builtin.Cd

end AliasShell
