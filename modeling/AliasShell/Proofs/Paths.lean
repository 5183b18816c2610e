/-
Paths that go on.

Hanging paths on one another may be done from either side: `join_assoc`.  So whoever has
resolved the beginning of a path has only to hang the rest on what came out.  That holds
for a path that is cut behind a separator, whether it begins with `~`, at the root or
nowhere: `expand_append`, and from it `resolve_append`.
-/
import AliasShell.Session

namespace AliasShell

namespace Path

/-! ### Hanging on

What makes `join` easy to reason about is to see the `/` as part of the path that something is hung
on: behind `lead` the other path just follows.
-/

/-- A path with the `/` that it needs before something follows. -/
def lead (base : Text) : Text :=
  if base.isEmpty || base.getLast? == some '/' then base else base ++ ['/']

theorem join_eq (base p : Text) : join base p = if isAbsolute p then p else lead base ++ p := by
  unfold join lead
  split
  · rfl
  · split
    · rfl
    · exact (List.append_cons base '/' p)

theorem join_of_isAbsolute {p : Text} (base : Text) (h : isAbsolute p = true) : join base p = p :=
  if_pos h

theorem join_of_relative {p : Text} (base : Text) (h : isAbsolute p = false) :
    join base p = lead base ++ p := by
  rw [join_eq, h]
  rfl

/-- What hangs on an absolute path is absolute. -/
theorem isAbsolute_join {base p : Text} (h : isAbsolute base = true) :
    isAbsolute (join base p) = true := by
  cases base with
  | nil => cases h
  | cons c cs =>
      unfold join
      split
      · next hp => exact hp
      · split
        · exact h
        · exact h

@[simp] theorem lead_nil : lead [] = [] := rfl

theorem lead_of_slash {base : Text} (h : base.getLast? = some '/') : lead base = base := by
  simp [lead, h]

@[simp] theorem lead_lead (base : Text) : lead (lead base) = lead base := by
  by_cases h : (base.isEmpty || base.getLast? == some '/') = true
  · have hsame : lead base = base := if_pos h
    rw [hsame, hsame]
  · have hmore : lead base = base ++ ['/'] := if_neg h
    rw [hmore, lead_of_slash List.getLast?_concat]

/-- Only the end of a path decides. -/
theorem lead_append {b : Text} (h : b ≠ []) (a : Text) : lead (a ++ b) = a ++ lead b := by
  have hlast : (a ++ b).getLast? = b.getLast? := by
    obtain ⟨c, hc⟩ := Option.ne_none_iff_exists'.mp (mt List.getLast?_eq_none_iff.mp h)
    rw [List.getLast?_append, hc]
    rfl
  have hempty : (a ++ b).isEmpty = b.isEmpty := by
    rw [List.isEmpty_eq_false_iff.mpr h,
      List.isEmpty_eq_false_iff.mpr (List.append_ne_nil_of_right_ne_nil a h)]
  unfold lead
  rw [hlast, hempty]
  split
  · rfl
  · exact List.append_assoc a b ['/']

theorem isAbsolute_append {p : Text} (h : p ≠ []) (q : Text) :
    isAbsolute (p ++ q) = isAbsolute p := by
  obtain ⟨c, cs, rfl⟩ := List.exists_cons_of_ne_nil h
  rfl

theorem isAbsolute_lead_append {p q : Text} (hp : p ≠ []) :
    isAbsolute (lead p ++ q) = isAbsolute p := by
  unfold lead
  split
  · exact isAbsolute_append hp q
  · rw [List.append_assoc, isAbsolute_append hp]

/-- **It makes no difference which of three paths are hung on one another first.** -/
theorem join_assoc (a b c : Text) : join (join a b) c = join a (join b c) := by
  cases hc : isAbsolute c with
  | true => rw [join_of_isAbsolute _ hc, join_of_isAbsolute _ hc, join_of_isAbsolute _ hc]
  | false =>
      rw [join_of_relative _ hc, join_of_relative _ hc]
      by_cases hnil : b = []
      · subst hnil
        rw [join_of_relative a rfl, List.append_nil, lead_lead, lead_nil, List.nil_append,
          join_of_relative a hc]
      · cases hb : isAbsolute b with
        | true =>
            rw [join_of_isAbsolute a hb, join_of_isAbsolute a]
            rwa [isAbsolute_lead_append hnil]
        | false =>
            rw [join_of_relative a hb, lead_append hnil, List.append_assoc, join_of_relative a]
            rwa [isAbsolute_lead_append hnil]

/-! ### One name more -/

/-- A name stands between separators: there is something in it, and none of them. -/
structure IsName (name : Text) : Prop where
  ne_nil : name ≠ []
  solid : ∀ c ∈ name, isSeparator c = false

namespace IsName

variable {name : Text}

theorem head (h : IsName name) : ∃ c cs, name = c :: cs ∧ isSeparator c = false := by
  obtain ⟨c, cs, rfl⟩ := List.exists_cons_of_ne_nil h.ne_nil
  exact ⟨c, cs, rfl, h.solid c List.mem_cons_self⟩

theorem isAbsolute (h : IsName name) : isAbsolute name = false := by
  obtain ⟨c, cs, rfl, hc⟩ := h.head
  have hne : c ≠ '/' := by
    rintro rfl
    cases hc
  simp [Path.isAbsolute, hne]

theorem normalize (h : IsName name) : normalize name = name := by
  refine (List.map_congr_left fun c hc => ?_).trans (List.map_id name)
  rw [h.solid c hc]
  rfl

/-- A name is itself, unless it is the home directory. -/
theorem expand (h : IsName name) (htilde : name ≠ ['~']) (home : Option Text) :
    expand home name = .ok name := by
  rw [Path.expand, h.normalize]
  split
  · next hhead =>
      obtain ⟨c, cs, rfl, -⟩ := h.head
      obtain rfl : c = '~' := by simpa using hhead
      cases cs with
      | nil => exact absurd rfl htilde
      | cons d ds =>
          have hd : isSeparator d = false := h.solid d (by simp)
          simp [expandTilde, hd]
  · rfl

end IsName

/-- Among the parts under a directory, a name behind a separator is the last one. -/
theorem descend_append {front name : Text} (hfront : ∀ c ∈ front.getLast?, isSeparator c = true)
    (h : IsName name) (base : Text) :
    descend base (front ++ name) = join (descend base front) name := by
  have hname : (name.cut isSeparator).filter (fun part => !part.isEmpty) = [name] := by
    rw [Text.cut_eq_self h.solid]
    simp [h.ne_nil]
  rcases List.eq_nil_or_concat front with rfl | ⟨f, s, rfl⟩
  · rw [List.nil_append, descend, hname]
    rfl
  · have hs : isSeparator s = true := hfront s (by simp)
    rw [List.concat_eq_append, List.append_assoc, List.singleton_append, descend, descend,
      Text.cut_append_sep hs, Text.cut_append_sep hs, List.filter_append, List.filter_append, hname]
    simp

theorem expandTilde_append {front name : Text} (hfront : front.getLast? = some '/')
    (h : IsName name) (home : Option Text) :
    expandTilde home ('~' :: (front ++ name)) =
      (expandTilde home ('~' :: front)).map (join · name) := by
  cases front with
  | nil => cases hfront
  | cons c rest =>
      show (if isSeparator c then _ else _) = Except.map _ (if isSeparator c then _ else _)
      split
      · have hrest : ∀ d ∈ rest.getLast?, isSeparator d = true := by
          intro d hd
          rw [List.getLast?_cons, Option.mem_def.mp hd] at hfront
          obtain rfl : d = '/' := Option.some.inj hfront
          rfl
        cases home with
        | none => rfl
        | some base => exact congrArg Except.ok (descend_append hrest h base)
      · have hlast : ('~' :: c :: rest).getLast? = some '/' := by
          rw [List.getLast?_cons, hfront]
          rfl
        rw [Except.map, join_of_relative _ h.isAbsolute, lead_of_slash hlast]
        rfl

/-- **A name behind a separator hangs on what the path up to there means.** -/
theorem expand_append {front name : Text} (hne : front ≠ [])
    (hfront : ∀ c ∈ front.getLast?, isSeparator c = true) (h : IsName name) (home : Option Text) :
    expand home (front ++ name) = (expand home front).map (join · name) := by
  obtain ⟨f, s, rfl⟩ := (List.eq_nil_or_concat front).resolve_left hne
  rw [List.concat_eq_append] at *
  have hnorm : ∃ q, Path.normalize (f ++ [s]) = q ∧ q.getLast? = some '/' := by
    have hs : isSeparator s = true := hfront s List.getLast?_concat
    exact ⟨_, rfl, by simp [Path.normalize, hs]⟩
  obtain ⟨q, hq, hslash⟩ := hnorm
  have happend : Path.normalize (f ++ [s] ++ name) = q ++ name := by
    rw [Path.normalize, List.map_append, ← Path.normalize, ← Path.normalize, hq, h.normalize]
  rw [expand, expand, happend, hq]
  cases q with
  | nil => cases hslash
  | cons c cs =>
      show (if (some c == some '~') = true then _ else _) =
        Except.map _ (if (some c == some '~') = true then _ else _)
      split
      · next hc =>
          obtain rfl : c = '~' := by simpa using hc
          have hcs : cs.getLast? = some '/' := by
            cases cs with
            | nil => cases hslash
            | cons d ds => exact (List.getLast?_cons_cons).symm.trans hslash
          exact expandTilde_append hcs h home
      · rw [Except.map, join_of_relative _ h.isAbsolute, lead_of_slash hslash]

end Path

namespace Session

/-- In an absolute directory every path is resolved to an absolute one. -/
theorem isAbsolute_resolve {s : Session} {path p : Text} (hs : Path.isAbsolute s.cwd = true)
    (h : s.resolve path = .ok p) : Path.isAbsolute p = true := by
  unfold resolve at h
  cases hexpand : Path.expand s.home path with
  | error e =>
      rw [hexpand] at h
      cases h
  | ok q =>
      rw [hexpand] at h
      obtain rfl := Except.ok.inj h
      exact Path.isAbsolute_join hs

variable {name : Text}

/-- A name that is not `~` hangs on the session's directory. -/
theorem resolve_name (h : Path.IsName name) (htilde : name ≠ ['~']) (s : Session) :
    s.resolve name = .ok (Path.join s.cwd name) := by
  rw [resolve, h.expand htilde]
  rfl

/-- Behind a separator, any name hangs on what the path up to there is resolved to. -/
theorem resolve_append {front : Text} (hne : front ≠ [])
    (hfront : ∀ c ∈ front.getLast?, Path.isSeparator c = true) (h : Path.IsName name)
    (s : Session) : s.resolve (front ++ name) = (s.resolve front).map (Path.join · name) := by
  rw [resolve, resolve, Path.expand_append hne hfront h]
  cases Path.expand s.home front with
  | error e => rfl
  | ok dir => exact congrArg Except.ok (Path.join_assoc s.cwd dir name).symm

end Session

end AliasShell
