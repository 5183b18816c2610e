/-
What aliases can be like.

The table only ever grows by declarations, and a declaration is made of tokens that
were joined again and cut at an `=`.  So there are names and texts that no alias can
have, though the table itself would hold them: no name has a blank, an `=` or a `;`
in it, no text has a `;` in it or two blanks next to each other.  `Declared` says
this of a table, and `after_declared` that it holds whatever lines have run.

Nothing but the command `alias` changes the table, and `Edit` has a case for each
way in which it does.
-/
import AliasShell.Proofs.Dispatch.Limit
import AliasShell.Proofs.Dispatch.Replay
import AliasShell.Proofs.Joined

namespace AliasShell

namespace Aliases

/-! ### Declarations -/

/-- Name and text of an alias that can be declared. -/
structure IsDeclaration (e : Text × Text) : Prop where
  /-- the name is not empty and holds neither white space nor a `;` -/
  name : IsToken e.1
  /-- and no `=` -/
  name_equals : '=' ∉ e.1
  /-- the text holds no `;` -/
  text_separator : ';' ∉ e.2
  /-- it neither begins nor ends with white space -/
  text_trimmed : e.2.trim = e.2
  /-- and its words stand one space apart -/
  text_spaced : Text.unwords e.2.words = e.2

/-- A table that declarations can have led to. -/
structure Declared (t : Aliases) : Prop where
  /-- no name comes twice -/
  distinct : t.names.Nodup
  entry : ∀ e ∈ t.entries, IsDeclaration e

theorem declared_empty : Declared .empty := ⟨List.nodup_nil, by simp [empty]⟩

namespace Declared

variable {t : Aliases}

theorem add (h : t.Declared) {e : Text × Text} (he : IsDeclaration e) :
    (t.add e.1 e.2).Declared := by
  refine ⟨?_, fun d hd => ?_⟩
  · rw [names_add]
    split
    · exact h.distinct
    · next hnew =>
        exact List.nodup_append.mpr ⟨h.distinct, List.nodup_cons.mpr ⟨by simp, List.nodup_nil⟩,
          fun a ha b hb hab => hnew (by
            rw [hab, List.mem_singleton.mp hb] at ha
            exact ha)⟩
  · rcases mem_put hd with rfl | hd
    · exact he
    · exact h.entry d hd

theorem remove (h : t.Declared) (name : Text) : (t.remove name).Declared :=
  have hsub : (t.remove name).entries.Sublist t.entries := List.eraseP_sublist
  ⟨(hsub.map _).nodup h.distinct, fun e he => h.entry e (hsub.subset he)⟩

end Declared

end Aliases

namespace Builtin.AliasVerb

open Aliases

/-- **What tokens declare can be declared.** -/
theorem isDeclaration_of_declaration? {args : List Text} (hargs : ∀ w ∈ args, IsToken w)
    {e : Text × Text} (h : declaration? args = some e) : IsDeclaration e := by
  unfold declaration? at h
  cases hcut : (Text.unwords args).cutFirst (· == '=') with
  | none => rw [hcut] at h; cases h
  | some sides =>
      obtain ⟨name, text⟩ := sides
      rw [hcut] at h
      simp only at h
      split at h
      · cases h
      · next hname =>
          obtain rfl := Option.some.inj h
          rw [Bool.or_eq_true, not_or, List.isEmpty_iff] at hname
          obtain ⟨hequals, sep, hjoined⟩ := Text.eq_of_cutFirst hcut
          have hsolid : ∀ c ∈ name.trim, isBlank c = false := by
            simpa using hname.2
          have hsemi : ';' ∉ name ++ sep :: text := hjoined ▸ separator_not_mem_unwords hargs
          have hwords : ∀ w ∈ args, Text.IsWord w := fun w hw => (hargs w hw).toIsWord
          -- the text is what joined words leave behind a cut
          obtain ⟨us, hus, htext⟩ := Text.trim_of_suffix (a := name ++ [sep]) (b := text) hwords
            (by rw [hjoined, List.append_assoc]; rfl)
          refine ⟨⟨⟨hname.1, hsolid⟩, fun hs => ?_⟩, fun he => ?_, fun hs => ?_, ?_, ?_⟩
          · exact hsemi (List.mem_append_left _ (Text.mem_of_mem_trim hs))
          · simpa using hequals '=' (Text.mem_of_mem_trim he)
          · exact hsemi (List.mem_append_right _
              (List.mem_cons_of_mem _ (Text.mem_of_mem_trim hs)))
          · rw [htext, Text.trim_unwords hus]
          · rw [htext, Text.words_unwords hus]

end Builtin.AliasVerb

/-! ### What a command makes of the table -/

/-- What a command with these arguments can leave of a table. -/
inductive Aliases.Edit (args : List Text) (t : Aliases) : Aliases → Prop
  | keep : Edit args t t
  | add {word : Text} {rest : List Text} {e : Text × Text} (args_eq : args = word :: rest)
      (declared : Builtin.AliasVerb.declaration? rest = some e) : Edit args t (t.add e.1 e.2)
  | remove (name : Text) : Edit args t (t.remove name)
  | clear : Edit args t .empty

/-- Tokens edit a table into one that declarations can have led to. -/
theorem Aliases.Declared.edit {args : List Text} {t t' : Aliases} (h : t.Declared)
    (hargs : ∀ w ∈ args, IsToken w) (hedit : t.Edit args t') : t'.Declared := by
  cases hedit with
  | keep => exact h
  | add hrest hdeclared =>
      subst hrest
      exact h.add (Builtin.AliasVerb.isDeclaration_of_declaration?
        (fun w hw => hargs w (List.mem_cons_of_mem _ hw)) hdeclared)
  | remove name => exact h.remove name
  | clear => exact declared_empty

namespace Builtin

theorem edit_alias (args : List Text) (s : Session) :
    s.aliases.Edit args (AliasVerb.run args s).1.aliases := by
  rcases AliasVerb.run_cases args with
    hrun | ⟨rest, rfl, hrun⟩ | ⟨rest, -, hrun⟩ | hrun | ⟨form, hrun⟩ <;> rw [hrun]
  · rw [AliasVerb.list, (keepsAliases_printLines _ _).aliases]
    exact .keep
  · unfold AliasVerb.add
    split
    · exact .keep
    · next hdeclared =>
        rw [(keepsAliases_printLines _ _).aliases]
        exact .add rfl hdeclared
  · cases rest with
    | nil => exact .keep
    | cons name _ =>
        rw [AliasVerb.delete, (keepsAliases_printLines _ _).aliases]
        exact .remove name
  · exact .clear
  · exact .keep

/-- Every builtin edits the table or leaves it as it is. -/
theorem edit_of_action? {verb : Text} {action : Action} (h : action? verb = some action)
    (args : List Text) (s : Session) : s.aliases.Edit args (action args s).1.aliases := by
  rcases alias_or_keepsAliases h args s with rfl | hkeeps
  · exact edit_alias args s
  · rw [hkeeps.aliases]
    exact .keep

end Builtin

namespace Dispatch

/-- **A routed command edits the table or leaves it as it is.** -/
theorem route_edit (x : Executor) (c : Command) (s : Session) :
    s.aliases.Edit c.args (route x c s).2.aliases := by
  cases ha : Builtin.action? c.verb with
  | some action =>
      rw [route_builtin x ha]
      exact Builtin.edit_of_action? ha c.args s
  | none =>
      obtain ⟨r, hroute, -⟩ := route_program x ha s
      have hsame : (x.spawn c.verb c.args s).1.aliases = s.aliases :=
        x.spawn_keeps (P := fun t => t.aliases = s.aliases) (fun _ _ ht => ht) c.verb c.args rfl
      rw [hroute]
      simp only [hsame]
      exact .keep

/-- **Whatever lines have run, declarations can have led to the table.** -/
theorem after_declared (x : Executor) (lines : List Text) {s : Session}
    (hs : s.aliases.Declared) : (after x lines s).aliases.Declared :=
  after_keeps (P := fun s => s.aliases.Declared)
    (fun c hc _ h => h.edit (fun w hw => hc w (List.mem_cons_of_mem c.verb hw)) (route_edit x c _))
    lines hs

end Dispatch

end AliasShell
