/-
Where a path leads.

However a path was spelled, and whatever links lie on it, the place that it leads to is
`Plain`: names alone lead there from the root, each of them out of a directory and none
of them a link.  Every step of a walk keeps this.

The canonical path is the one of these names.  It is absolute, and since nothing on it
has to be resolved any more, it is its own canonical path: `canonical_canonical`.
-/
import AliasShell.Files.Operations

namespace AliasShell

/-! ### Parts of paths -/

namespace Path

/-- The text is a part of a path. -/
def IsPart (part : Text) : Prop := part ≠ [] ∧ '/' ∉ part

theorem isPart_of_mem_parts {p part : Text} (h : part ∈ parts p) : IsPart part := by
  rcases List.mem_append.mp h with h | h
  · obtain ⟨hcut, hne⟩ := List.mem_filter.mp h
    refine ⟨by simpa using hne, fun hmem => ?_⟩
    simpa using Text.mem_cut hcut '/' hmem
  · split at h
    · obtain rfl := List.mem_singleton.mp h
      exact ⟨by simp, by decide⟩
    · cases h

theorem cut_flatMap {ns : List Text} (hns : ∀ n ∈ ns, '/' ∉ n) {a : Text} (ha : '/' ∉ a) :
    (a ++ ns.flatMap ('/' :: ·)).cut (· == '/') = a :: ns := by
  have hself : ∀ {t : Text}, '/' ∉ t → t.cut (· == '/') = [t] := by
    intro t ht
    refine Text.cut_eq_self ?_
    intro c hc
    have hne : c ≠ '/' := fun heq => ht (heq ▸ hc)
    simpa using hne
  induction ns generalizing a with
  | nil => simpa using hself ha
  | cons n ns ih =>
      have hn := ih (fun m hm => hns m (List.mem_cons_of_mem n hm)) (hns n List.mem_cons_self)
      rw [List.flatMap_cons, List.cons_append, Text.cut_append_sep (by rfl), hself ha, hn]
      rfl

/-- The parts of the path of a location are its names. -/
theorem parts_ofLocation {loc : Location} {name : Text} (h : ∀ n ∈ loc ++ [name], IsPart n) :
    parts (ofLocation (loc ++ [name])) = loc ++ [name] := by
  have hpath : ofLocation (loc ++ [name]) = (loc ++ [name]).flatMap ('/' :: ·) := by
    cases loc <;> rfl
  have hlast : ((loc ++ [name]).flatMap ('/' :: ·)).getLast? ≠ some '/' := by
    obtain ⟨hne, hslash⟩ := h name (by simp)
    rcases List.eq_nil_or_concat name with rfl | ⟨front, c, rfl⟩
    · exact absurd rfl hne
    · have hc : c ≠ '/' := fun heq => hslash (by simp [heq])
      rw [List.flatMap_append, List.flatMap_singleton, List.concat_eq_append, ← List.cons_append,
        ← List.append_assoc, List.getLast?_concat]
      simpa using hc
  have hfilter : (loc ++ [name]).filter (fun part => !part.isEmpty) = loc ++ [name] :=
    List.filter_eq_self.mpr fun n hn => by simpa using (h n hn).1
  rw [parts, hpath, if_neg (by simpa using hlast), List.append_nil]
  have hcut := cut_flatMap (fun n hn => (h n hn).2) (List.not_mem_nil (a := '/'))
  rw [List.nil_append] at hcut
  rw [hcut, List.filter_cons_of_neg (by simp), hfilter]

end Path

/-! ### Walks -/

namespace Files

variable {fs : Files}

/-- Names lead from the root to the location, out of directories and over no link. -/
inductive Plain (fs : Files) : Location → Prop
  | root : Plain fs []
  | step {loc : Location} {name : Text} {node : Node} (above : Plain fs loc)
      (dir : fs.isDirAt loc = true) (part : Path.IsPart name) (here : name ≠ ['.'])
      (up : name ≠ ['.', '.']) (short : name.byteLength ≤ nameLimit)
      (stands : fs.node? (loc ++ [name]) = some node) (link : node.isLink = false) :
      Plain fs (loc ++ [name])

namespace Plain

theorem dropLast {loc : Location} (h : Plain fs loc) : Plain fs loc.dropLast := by
  cases h with
  | root => exact .root
  | step above => rwa [List.dropLast_concat]

theorem isPart {loc : Location} (h : Plain fs loc) : ∀ n ∈ loc, Path.IsPart n := by
  induction h with
  | root => rintro n ⟨⟩
  | step above dir part here up short stands link ih =>
      intro n hn
      rcases List.mem_append.mp hn with hn | hn
      · exact ih n hn
      · exact List.mem_singleton.mp hn ▸ part

/-- Every step of a walk leads from one such location to another. -/
theorem follow {onLink : Location → List Text → Except SysError Location}
    (hlink : ∀ {loc parts loc'}, Plain fs loc → (∀ p ∈ parts, Path.IsPart p) →
      onLink loc parts = .ok loc' → Plain fs loc')
    {loc loc' : Location} {parts : List Text} (h : Plain fs loc)
    (hparts : ∀ p ∈ parts, Path.IsPart p) (hfollow : fs.follow onLink loc parts = .ok loc') :
    Plain fs loc' := by
  induction parts generalizing loc with
  | nil => exact Except.ok.inj hfollow ▸ h
  | cons part rest ih =>
      have hrest : ∀ p ∈ rest, Path.IsPart p := fun p hp => hparts p (List.mem_cons_of_mem part hp)
      rw [Files.follow] at hfollow
      split at hfollow
      · cases hfollow
      · next hdir =>
          split at hfollow
          · exact ih h hrest hfollow
          · next hhere =>
              split at hfollow
              · exact ih h.dropLast hrest hfollow
              · next hup =>
                  split at hfollow
                  · cases hfollow
                  · next hshort =>
                      split at hfollow
                      · cases hfollow
                      · next target modified hnode =>
                          refine hlink ?_ (fun p hp => ?_) hfollow
                          · split
                            · exact .root
                            · exact h
                          · exact (List.mem_append.mp hp).elim Path.isPart_of_mem_parts (hrest p)
                      · next node hnode hstands =>
                          refine ih (.step h (by simpa using hdir) (hparts part List.mem_cons_self)
                            hhere hup (by omega) hstands ?_) hrest hfollow
                          cases node with
                          | link target modified => exact absurd rfl (hnode target modified)
                          | dir t => rfl
                          | file data t => rfl
                          | device d => rfl

theorem walk {links : Nat} {loc loc' : Location} {parts : List Text} (h : Plain fs loc)
    (hparts : ∀ p ∈ parts, Path.IsPart p) (hwalk : fs.walk links loc parts = .ok loc') :
    Plain fs loc' := by
  induction links generalizing loc loc' parts with
  | zero => exact h.follow (fun _ _ herror => by cases herror) hparts hwalk
  | succ links ih => exact h.follow (fun hloc hp hnext => ih hloc hp hnext) hparts hwalk

/-- The names of such a location lead straight to it. -/
theorem follow_names {onLink : Location → List Text → Except SysError Location} {loc : Location}
    (h : Plain fs loc) (rest : List Text) :
    fs.follow onLink [] (loc ++ rest) = fs.follow onLink loc rest := by
  induction h generalizing rest with
  | root => rfl
  | @step loc name node above dir part here up short stands link ih =>
      rw [List.append_assoc, ih, List.singleton_append, Files.follow, if_neg (by simp [dir]),
        if_neg here, if_neg up, if_neg (by omega), stands]
      cases node with
      | link target modified => cases link
      | dir t => rfl
      | file data t => rfl
      | device d => rfl

theorem walk_names {loc : Location} (h : Plain fs loc) (links : Nat) :
    fs.walk links [] loc = .ok loc := by
  have hstraight : ∀ onLink, fs.follow onLink [] loc = .ok loc := fun onLink => by
    have hnames : fs.follow onLink [] (loc ++ []) = .ok loc := h.follow_names []
    rwa [List.append_nil] at hnames
  cases links with
  | zero => exact hstraight _
  | succ links => exact hstraight _

end Plain

/-! ### Canonical paths -/

theorem isAbsolute_ofLocation (loc : Location) : Path.isAbsolute (Path.ofLocation loc) = true := by
  cases loc with
  | nil => rfl
  | cons n ns => rfl

theorem canonical_eq_ok {p dir : Text} :
    fs.canonical p = .ok dir ↔
      ∃ loc, fs.withoutOpened.locate p = .ok loc ∧ Path.ofLocation loc = dir := by
  rw [canonical]
  cases fs.withoutOpened.locate p with
  | error e => simp [Except.map]
  | ok loc => simp [Except.map]

/-- A canonical path is absolute. -/
theorem isAbsolute_canonical {p dir : Text} (h : fs.canonical p = .ok dir) :
    Path.isAbsolute dir = true := by
  obtain ⟨loc, -, rfl⟩ := canonical_eq_ok.mp h
  exact isAbsolute_ofLocation loc

/-- An absolute path leads to where it leads from the root. -/
theorem locate_absolute {p : Text} (hp : Path.isAbsolute p = true) (hnul : '\x00' ∉ p) :
    fs.locate p = fs.walk linkLimit [] (Path.parts p) := by
  have hne : p.isEmpty = false := by
    cases p with
    | nil => cases hp
    | cons c cs => rfl
  rw [locate, if_neg hnul, if_neg (by simp [hne]), if_pos hp]

/-- The path of such a location leads to it. -/
theorem Plain.locate_ofLocation {loc : Location} (h : Plain fs loc)
    (hnul : '\x00' ∉ Path.ofLocation loc) : fs.locate (Path.ofLocation loc) = .ok loc := by
  rw [locate_absolute (isAbsolute_ofLocation loc) hnul]
  cases h with
  | root => rfl
  | step above dir part here up short stands link =>
      have hplain := Plain.step above dir part here up short stands link
      rw [Path.parts_ofLocation hplain.isPart, hplain.walk_names]

/-- **The canonical path of a canonical path is this path.** -/
theorem canonical_canonical {p dir : Text} (hp : Path.isAbsolute p = true)
    (h : fs.canonical p = .ok dir) (hnul : '\x00' ∉ dir) : fs.canonical dir = .ok dir := by
  obtain ⟨loc, hloc, rfl⟩ := canonical_eq_ok.mp h
  have hpath : '\x00' ∉ p := by
    intro hmem
    rw [locate, if_pos hmem] at hloc
    cases hloc
  rw [locate_absolute hp hpath] at hloc
  have hplain : Plain fs.withoutOpened loc :=
    Plain.root.walk (fun _ => Path.isPart_of_mem_parts) hloc
  exact canonical_eq_ok.mpr ⟨loc, hplain.locate_ofLocation hnul, rfl⟩

end Files

end AliasShell
