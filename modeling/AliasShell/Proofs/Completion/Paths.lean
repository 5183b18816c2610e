/-
What is offered for a path.

Completing a path lists one directory, the one that the word names up to its last
separator, and offers the entries that go on as the word does.  `mem_choices` says which
these are, and `ascending_choices` how they are ordered: by what is shown, each one once,
in whatever order the system delivers them.  That needs of a directory only what every
file system grants, that names are not empty, hold no `/` and come once: `IsListing`.

An offer leads to the entry that it shows.  Completing finds the directory from the word
without the name, and a command resolves the word with the name; by `Session.resolve_append`
both come to the same path.
-/
import AliasShell.Proofs.Ends
import AliasShell.Proofs.Environment.Order
import AliasShell.Proofs.Paths
import AliasShell.Completion.Paths

namespace AliasShell

/-! ### What a directory holds -/

/-- The names in a directory come once, and each is some bytes without a `/` among them. -/
structure IsListing (names : List Bytes) : Prop where
  nodup : names.Nodup
  ne_nil : ∀ name ∈ names, name ≠ []
  solid : ∀ name ∈ names, Text.byteOf '/' ∉ name

theorem IsListing.of_perm {names names' : List Bytes} (h : IsListing names)
    (hp : names'.Perm names) : IsListing names' where
  nodup := hp.nodup_iff.mpr h.nodup
  ne_nil name hname := h.ne_nil name (hp.mem_iff.mp hname)
  solid name hname := h.solid name (hp.mem_iff.mp hname)

/-- A disk on which all directories are so. -/
def Disk.Proper (d : Disk) : Prop := ∀ dir names, d.names dir = .ok names → IsListing names

/-- What reads as a text is its encoding. -/
theorem Bytes.decode?_eq_some_iff {b : Bytes} {t : Text} : decode? b = some t ↔ b = t.encode := by
  constructor
  · intro h
    obtain ⟨chars, hchars, rfl⟩ := Option.map_eq_some_iff.mp h
    have hsome : b.toByteArray.utf8Decode?.isSome = true := by rw [hchars]; rfl
    have hget : b.toByteArray.utf8Decode?.get hsome = chars := by simp [hchars]
    have hencode := ByteArray.utf8Encode_get_utf8Decode? (h := hsome)
    rw [hget, ← Text.toByteArray_encode] at hencode
    have hdata := congrArg ByteArray.data hencode
    simpa using hdata.symm
  · rintro rfl
    exact Text.decode?_encode t

theorem Text.startsWith_singleton_iff {c : Char} {t : Text} :
    t.startsWith [c] = true ↔ t.head? = some c := by
  cases t with
  | nil => exact iff_of_false Bool.false_ne_true nofun
  | cons d ds =>
      show ((c == d) && true) = true ↔ some d = some c
      rw [Bool.and_true, beq_iff_eq, Option.some.injEq, eq_comm]

namespace IsListing

variable {names : List Bytes} {name : Text}

theorem slash_not_mem (h : IsListing names) (hname : name.encode ∈ names) : '/' ∉ name :=
  fun hmem => h.solid _ hname (List.mem_flatMap.mpr ⟨'/', hmem, by decide⟩)

/-- A name without a `\\` can stand in a path as it is. -/
theorem isName (h : IsListing names) (hname : name.encode ∈ names) (hback : '\\' ∉ name) :
    Path.IsName name where
  ne_nil := by
    rintro rfl
    exact h.ne_nil _ hname rfl
  solid c hc := by
    have hslash : c ≠ '/' := fun he => h.slash_not_mem hname (he ▸ hc)
    have hne : c ≠ '\\' := fun he => hback (he ▸ hc)
    simp [Path.isSeparator, hslash, hne]

end IsListing

namespace PathCompleter

/-! ### Which entries are offered -/

/-- The name goes on as was typed; to be shown, a hidden one has to be asked for by its point. -/
structure Matches (start name : Text) : Prop where
  starts : start <+: name
  shown : name.head? = some '.' → start.head? = some '.'

theorem startsWith_point_iff {t : Text} : t.startsWith "." = true ↔ t.head? = some '.' :=
  Text.startsWith_singleton_iff

theorem fits_iff {start name : Text} : fits start name = true ↔ Matches start name := by
  have hpoint : (!name.startsWith "." || start.startsWith ".") = true ↔
      (name.head? = some '.' → start.head? = some '.') := by
    rw [← startsWith_point_iff, ← startsWith_point_iff]
    cases name.startsWith "." <;> simp
  rw [fits, Bool.and_eq_true, hpoint, Text.startsWith, List.isPrefixOf_iff_prefix]
  exact ⟨fun h => ⟨h.1, h.2⟩, fun h => ⟨h.starts, h.shown⟩⟩

section

variable {typed start : Text} {isDir : Text → Bool} {names names' : List Bytes}

theorem candidate?_eq_some_iff {b : Bytes} {cand : Candidate} :
    candidate? typed start isDir b = some cand ↔
      ∃ name : Text, b = name.encode ∧ Matches start name ∧
        cand = candidate typed name (isDir name) := by
  constructor
  · intro h
    unfold candidate? at h
    split at h
    · next name hname =>
        split at h
        · next hfits =>
            exact ⟨name, Bytes.decode?_eq_some_iff.mp hname, fits_iff.mp hfits,
              (Option.some.inj h).symm⟩
        · cases h
    · cases h
  · rintro ⟨name, rfl, hfits, rfl⟩
    simp only [candidate?, Text.decode?_encode, fits_iff.mpr hfits, if_true]

theorem mem_choices {cand : Candidate} :
    cand ∈ choices typed start isDir names ↔
      ∃ name : Text, name.encode ∈ names ∧ Matches start name ∧
        cand = candidate typed name (isDir name) := by
  rw [choices, List.mem_mergeSort, List.mem_filterMap]
  constructor
  · rintro ⟨b, hb, hcand⟩
    obtain ⟨name, rfl, hrest⟩ := candidate?_eq_some_iff.mp hcand
    exact ⟨name, hb, hrest⟩
  · rintro ⟨name, hb, hrest⟩
    exact ⟨name.encode, hb, candidate?_eq_some_iff.mpr ⟨name, rfl, hrest⟩⟩

/-- What is put in goes on as the word does. -/
theorem prefix_replacement {name : Text} (h : Matches start name) (isDir : Bool) :
    typed ++ start <+: (candidate typed name isDir).replacement := by
  have hname : typed ++ start <+: typed ++ name :=
    (List.prefix_append_right_inj typed).mpr h.starts
  cases isDir with
  | true => exact hname.trans (List.prefix_append _ ['/'])
  | false => exact hname.trans (List.prefix_append _ [' '])

/-! ### In which order -/

/-- A name can be told from what is shown of it. -/
theorem filter_display {name : Text} (h : '/' ∉ name) (isDir : Bool) :
    (candidate typed name isDir).display.filter (· != '/') = name := by
  have hname : name.filter (· != '/') = name := by
    refine List.filter_eq_self.mpr fun c hc => ?_
    have hne : c ≠ '/' := fun he => h (he ▸ hc)
    simp [hne]
  cases isDir with
  | true =>
      show (name ++ ['/']).filter (· != '/') = name
      rw [List.filter_append, hname]
      exact List.append_nil name
  | false => exact hname

/-- Different names are shown differently. -/
theorem pairwise_display_ne (h : IsListing names) :
    (names.filterMap (candidate? typed start isDir)).Pairwise fun a b => a.display ≠ b.display := by
  have hlisted : names.Pairwise fun a b => a ∈ names ∧ b ∈ names ∧ a ≠ b :=
    h.nodup.imp_of_mem fun ha hb hne => ⟨ha, hb, hne⟩
  refine List.Pairwise.filterMap _ ?_ hlisted
  rintro x y ⟨hx, hy, hne⟩ a ha b hb heq
  obtain ⟨v, rfl, -, rfl⟩ := candidate?_eq_some_iff.mp ha
  obtain ⟨w, rfl, -, rfl⟩ := candidate?_eq_some_iff.mp hb
  have hnames := congrArg (List.filter (· != '/')) heq
  rw [filter_display (h.slash_not_mem hx), filter_display (h.slash_not_mem hy)] at hnames
  exact hne (congrArg Text.encode hnames)

theorem ascending_choices (h : IsListing names) :
    (choices typed start isDir names).Pairwise fun a b => a.display < b.display := by
  have hsorted : (choices typed start isDir names).Pairwise fun a b =>
      a.display.le b.display = true :=
    List.pairwise_mergeSort (fun a b c => Text.linear_le.trans a.display b.display c.display)
      (fun a b => Text.linear_le.total a.display b.display) _
  have hne : (choices typed start isDir names).Pairwise fun a b => a.display ≠ b.display :=
    (pairwise_display_ne h).perm (List.mergeSort_perm _ _).symm fun hab => Ne.symm hab
  refine (hsorted.and hne).imp ?_
  rintro a b ⟨hle, hne⟩
  rw [Text.le, Bool.not_eq_true', decide_eq_false_iff_not] at hle
  by_contra hlt
  exact hne (List.le_antisymm (List.not_lt.mp hle) (List.not_lt.mp hlt))

/-- The order in which names are delivered does not show. -/
theorem choices_eq_of_perm (h : IsListing names) (hp : names'.Perm names) :
    choices typed start isDir names' = choices typed start isDir names := by
  have hperm : (choices typed start isDir names').Perm (choices typed start isDir names) :=
    ((List.mergeSort_perm _ _).trans (hp.filterMap _)).trans (List.mergeSort_perm _ _).symm
  refine hperm.eq_of_pairwise ?_ (ascending_choices (h.of_perm hp)) (ascending_choices h)
  intro a b _ _ hab hba
  exact absurd hba (List.lt_asymm hab)

end

/-! ### What is offered -/

/-- The choices that complete `typed ++ start` with the entries of `dir`, whose names these are: in
the order in which they are shown, each one once, the entries that match and no others, and each
of them goes on as the word does. -/
structure Completes (d : Disk) (typed start dir : Text) (names : List Bytes)
    (choices : List Candidate) : Prop where
  ascending : choices.Pairwise fun a b => a.display < b.display
  mem_iff : ∀ cand, cand ∈ choices ↔
    ∃ name : Text, name.encode ∈ names ∧ Matches start name ∧
      cand = if d.isDir (Path.join dir name) then ⟨name ++ ['/'], typed ++ name ++ ['/']⟩
        else ⟨name, typed ++ name ++ [' ']⟩
  extends_word : ∀ cand ∈ choices, typed ++ start <+: cand.replacement

theorem completes_choices {d : Disk} {typed start dir : Text} {names : List Bytes}
    (h : IsListing names) :
    Completes d typed start dir names
      (choices typed start (fun name => d.isDir (Path.join dir name)) names) where
  ascending := ascending_choices h
  mem_iff cand := mem_choices
  extends_word cand hcand := by
    obtain ⟨name, -, hmatch, rfl⟩ := mem_choices.mp hcand
    exact prefix_replacement hmatch _

section

variable {c : PathCompleter} {d : Disk} {word typed start dir : Text}

theorem completeOn_of_no_dir (hcut : cutWord word = (typed, start))
    (hdir : c.searchDir typed = none) : c.completeOn d word = [] := by
  rw [completeOn, hcut]
  simp only [hdir]

theorem completeOn_of_unread {e : SysError} (hcut : cutWord word = (typed, start))
    (hdir : c.searchDir typed = some dir) (h : d.names dir = .error e) :
    c.completeOn d word = [] := by
  rw [completeOn, hcut]
  simp only [hdir, h]

theorem completeOn_of_read {names : List Bytes} (hcut : cutWord word = (typed, start))
    (hdir : c.searchDir typed = some dir) (h : d.names dir = .ok names) :
    c.completeOn d word =
      choices typed start (fun name => d.isDir (Path.join dir name)) names := by
  rw [completeOn, hcut]
  simp only [hdir, h]

end

/-- A name that is hung on the directory is what a session resolves, when the directory is the one
that is looked in. -/
theorem resolve_of_searchDir {s : Session} {typed dir name : Text}
    (htyped : ∀ c ∈ typed.getLast?, Path.isSeparator c = true) (h : Path.IsName name)
    (htilde : typed = [] → name ≠ ['~']) (hdir : searchDir ⟨s.cwd, s.home⟩ typed = some dir) :
    s.resolve (typed ++ name) = .ok (Path.join dir name) := by
  cases typed with
  | nil =>
      obtain rfl : s.cwd = dir := Option.some.inj hdir
      exact s.resolve_name h (htilde rfl)
  | cons c cs =>
      rw [s.resolve_append (List.cons_ne_nil c cs) htyped h, Session.resolve]
      unfold searchDir at hdir
      cases hexpand : Path.expand s.home (c :: cs) with
      | error e =>
          rw [hexpand] at hdir
          cases hdir
      | ok p =>
          rw [hexpand] at hdir
          obtain rfl := Option.some.inj hdir
          rfl

/-- **What is offered for a path are the entries that match, and it leads to them.**  The word is
cut behind its last separator; the part up to there names a directory.  Where there is none, or it
cannot be read, nothing is offered.  Otherwise the entries are offered that go on as the word does,
in the order in which they are shown, whatever order the disk delivers them in.  And with the name
of an entry behind what was typed, a session in this directory and with this home finds the entry,
except for a name with a `\\` in it, which separates, and for `~` alone, which is the home. -/
theorem complete_path (s : Session) {d : Disk} (h : d.Proper) (word : Text) :
    let c : PathCompleter := ⟨s.cwd, s.home⟩
    ∃ typed start, word = typed ++ start ∧ Text.IsTail Path.isSeparator word start ∧
      (c.searchDir typed = none → c.completeOn d word = []) ∧
      ∀ dir, c.searchDir typed = some dir →
        (∀ e, d.names dir = .error e → c.completeOn d word = []) ∧
        ∀ names, d.names dir = .ok names →
          Completes d typed start dir names (c.completeOn d word) ∧
          (∀ d' : Disk, ∀ names', d'.isDir = d.isDir → d'.names dir = .ok names' →
            names'.Perm names → c.completeOn d' word = c.completeOn d word) ∧
          ∀ name : Text, name.encode ∈ names → '\\' ∉ name → (typed = [] → name ≠ ['~']) →
            s.resolve (typed ++ name) = .ok (Path.join dir name) := by
  obtain ⟨typed, start, hcut, hword, htyped, htail⟩ := Text.exists_cutLast Path.isSeparator word
  intro c
  refine ⟨typed, start, hword, htail, fun hdir => completeOn_of_no_dir hcut hdir,
    fun dir hdir => ⟨fun e he => completeOn_of_unread hcut hdir he, fun names hnames => ?_⟩⟩
  have hlisting : IsListing names := h dir names hnames
  rw [completeOn_of_read hcut hdir hnames]
  refine ⟨completes_choices hlisting, fun d' names' hisDir hnames' hperm => ?_,
    fun name hname hback htilde => ?_⟩
  · rw [completeOn_of_read hcut hdir hnames', hisDir]
    exact choices_eq_of_perm hlisting hperm
  · exact resolve_of_searchDir htyped (hlisting.isName hname hback) htilde hdir

/-- A directory under a home that is written with a `/` at its end, with names that are hidden, that
separate and that are no text. -/
theorem complete_path_hidden :
    let s : Session := { Session.fresh "/w" with home := some "/h/".toList }
    let names : List Bytes := [[46, 98, 122], [46, 98, 92, 120], [46, 98, 255], [98], [46, 98, 97]]
    let d : Disk :=
      ⟨fun dir => if dir = "/h/d".toList then .ok names else .error .notFound,
        fun path => path == "/h/d/.ba".toList⟩
    let word : Text := "~\\d//.b"
    let choices := (PathCompleter.mk s.cwd s.home).completeOn d word
    d.Proper ∧ choices.Pairwise (fun a b => a.display < b.display) ∧
      ⟨".ba/", "~\\d//.ba/"⟩ ∈ choices ∧ ⟨".b\\x", "~\\d//.b\\x "⟩ ∈ choices ∧
      s.resolve "~\\d//.ba" = .ok "/h/d/.ba" := by
  intro s names d word choices
  have hproper : d.Proper := by
    intro dir listed h
    change (if dir = "/h/d".toList then Except.ok names else .error SysError.notFound) = .ok listed
      at h
    split at h
    · cases h
      exact ⟨by decide, by decide, by decide⟩
    · cases h
  obtain ⟨typed, start, hword, htail, -, hdir⟩ := complete_path s hproper word
  have htyped : ∀ c ∈ "~\\d//".toList.getLast?, Path.isSeparator c = true := by
    rintro c ⟨⟩
    rfl
  have hsolid : ".b".toList.all (fun c => !Path.isSeparator c) = true := rfl
  have hfree : ∀ c ∈ ".b".toList, Path.isSeparator c = false := fun c hc => by
    simpa using List.all_eq_true.mp hsolid c hc
  obtain rfl : start = ".b".toList := htail.unique (Text.isTail_append htyped hfree)
  obtain rfl : typed = "~\\d//".toList := List.append_cancel_right (hword.symm.trans rfl)
  obtain ⟨-, hnames⟩ := hdir "/h/d".toList (by decide)
  obtain ⟨hcompletes, -, hresolve⟩ := hnames names (by decide)
  refine ⟨hproper, hcompletes.ascending, ?_, ?_, ?_⟩
  · exact (hcompletes.mem_iff _).mpr ⟨".ba".toList, by decide, ⟨by decide, by decide⟩, by decide⟩
  · exact (hcompletes.mem_iff _).mpr ⟨".b\\x".toList, by decide, ⟨by decide, by decide⟩, by decide⟩
  · exact hresolve ".ba".toList (by decide) (by decide) (by decide)

end PathCompleter

end AliasShell
