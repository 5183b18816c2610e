/-
The order of variables.

One kind of environment keeps its variables in the order of their names as texts, the
other sorts them by the bytes of their names, and programs are handed bytes by both.
In UTF-8 this is one order: at the first byte in which two encodings differ, the
greater byte belongs to the greater character.  That is `utf8EncodeChar_append_lt`,
and everything else follows from it, also that no character's encoding begins with
another's: `eq_of_utf8EncodeChar_append`.

So both kinds hand over their variables by ascending names, as long as no name comes
twice: `ascending_snapshot`.
-/
import AliasShell.Proofs.Environment
import Mathlib.Data.List.Perm.Basic

namespace AliasShell

/-! ### Texts and their bytes -/

/-- Runs of bytes are compared by their first bytes, and by the rest where these are equal. -/
theorem Bytes.ofNat_cons_lt {a b : Nat} {s t : Bytes} (hb : b < 256) (hle : a ≤ b)
    (h : a = b → s < t) : UInt8.ofNat a :: s < UInt8.ofNat b :: t := by
  rw [List.cons_lt_cons_iff]
  rcases Nat.lt_or_eq_of_le hle with hlt | heq
  · exact Or.inl ((UInt8.ofNat_lt_iff_lt (Nat.lt_trans hlt hb) hb).mpr hlt)
  · exact Or.inr ⟨congrArg UInt8.ofNat heq, h heq⟩

namespace Text

open Bytes

/-- Whatever follows, a less character has the less encoding. -/
theorem utf8EncodeChar_append_lt {c d : Char} (h : c < d) (s t : Bytes) :
    String.utf8EncodeChar c ++ s < String.utf8EncodeChar d ++ t := by
  have hvalid : d.val.toNat < 1114112 := by rcases d.valid with hd | hd <;> omega
  have hless : c.val.toNat < d.val.toNat := h
  unfold String.utf8EncodeChar
  extract_lets n m
  have hm : m < 1114112 := hvalid
  have hnm : n < m := hless
  clear_value n m
  -- The length of an encoding shows in its first byte, so that byte decides where the lengths
  -- differ.  Where they do not, six bits are compared after another, and `n < m` rules out
  -- that all of them are equal.
  split
  · repeat' split
    all_goals exact ofNat_cons_lt (by omega) (by omega) fun he => absurd he (by omega)
  · split
    · repeat' split
      · omega
      · refine ofNat_cons_lt (by omega) (by omega) fun h₁ => ?_
        exact ofNat_cons_lt (by omega) (by omega) fun h₂ => absurd hnm (by omega)
      all_goals exact ofNat_cons_lt (by omega) (by omega) fun he => absurd he (by omega)
    · split
      · repeat' split
        · omega
        · omega
        · refine ofNat_cons_lt (by omega) (by omega) fun h₁ => ?_
          refine ofNat_cons_lt (by omega) (by omega) fun h₂ => ?_
          exact ofNat_cons_lt (by omega) (by omega) fun h₃ => absurd hnm (by omega)
        · exact ofNat_cons_lt (by omega) (by omega) fun he => absurd he (by omega)
      · repeat' split
        · omega
        · omega
        · omega
        · refine ofNat_cons_lt (by omega) (by omega) fun h₁ => ?_
          refine ofNat_cons_lt (by omega) (by omega) fun h₂ => ?_
          refine ofNat_cons_lt (by omega) (by omega) fun h₃ => ?_
          exact ofNat_cons_lt (by omega) (by omega) fun h₄ => absurd hnm (by omega)

/-- Bytes begin with the encoding of one character only. -/
theorem eq_of_utf8EncodeChar_append {c d : Char} {s t : Bytes}
    (h : String.utf8EncodeChar c ++ s = String.utf8EncodeChar d ++ t) : c = d := by
  rcases Nat.lt_trichotomy c.toNat d.toNat with hlt | heq | hgt
  · have hless := utf8EncodeChar_append_lt hlt s t
    rw [h] at hless
    exact absurd hless (List.lt_irrefl _)
  · exact Char.toNat_inj.mp heq
  · have hless := utf8EncodeChar_append_lt hgt t s
    rw [h] at hless
    exact absurd hless (List.lt_irrefl _)

theorem encode_lt_of_lt {a b : Text} (h : a < b) : a.encode < b.encode := by
  induction a generalizing b with
  | nil =>
      cases b with
      | nil => exact absurd h (List.lt_irrefl [])
      | cons d ds =>
          obtain ⟨x, xs, hx⟩ := List.exists_cons_of_ne_nil (encode_ne_nil (List.cons_ne_nil d ds))
          rw [encode_nil, hx]
          exact List.nil_lt_cons x xs
  | cons c cs ih =>
      cases b with
      | nil => exact absurd h (List.not_lt_nil _)
      | cons d ds =>
          rcases List.cons_lt_cons_iff.mp h with hcd | ⟨rfl, hrest⟩
          · exact utf8EncodeChar_append_lt hcd _ _
          · exact List.append_left_lt (ih hrest)

/-- Bytes that begin a text and are a text leave a text behind. -/
theorem eq_append_of_encode {a b : Text} {s : Bytes} (h : b.encode = a.encode ++ s) :
    ∃ t, b = a ++ t ∧ s = t.encode := by
  induction a generalizing b with
  | nil => exact ⟨b, rfl, h.symm⟩
  | cons c cs ih =>
      cases b with
      | nil =>
          have hnil : encode (c :: cs) = [] := (List.append_eq_nil_iff.mp h.symm).1
          exact absurd hnil (encode_ne_nil (List.cons_ne_nil c cs))
      | cons d ds =>
          have hchars : String.utf8EncodeChar d ++ encode ds =
              String.utf8EncodeChar c ++ (encode cs ++ s) := by
            rw [← List.append_assoc]
            exact h
          obtain rfl : d = c := eq_of_utf8EncodeChar_append hchars
          obtain ⟨t, ht, hs⟩ := ih (List.append_cancel_left hchars)
          exact ⟨t, congrArg (d :: ·) ht, hs⟩

end Text

/-! ### Sorted entries

Entries are sorted by their names, and those of one name by their values.
-/

/-- `le` compares any two, and two different ones in one way only. -/
structure Linear {α : Type} (le : α → α → Bool) : Prop where
  total : ∀ a b, (le a b || le b a) = true
  trans : ∀ a b c, le a b = true → le b c = true → le a c = true
  antisymm : ∀ a b, le a b = true → le b a = true → a = b

theorem linear_not_lt {α : Type} [DecidableEq α] [LT α] [DecidableLT α] [LE α]
    [Std.IsLinearOrder α] [Std.LawfulOrderLT α] : Linear fun a b : List α => !decide (b < a) := by
  constructor <;> simp only [Bool.or_eq_true, Bool.not_eq_true', decide_eq_false_iff_not]
  · intro a b
    exact (List.le_total a b).imp List.not_lt.mpr List.not_lt.mpr
  · intro a b c hab hbc
    exact List.not_lt.mpr (List.le_trans (List.not_lt.mp hab) (List.not_lt.mp hbc))
  · intro a b hab hba
    exact List.le_antisymm (List.not_lt.mp hab) (List.not_lt.mp hba)

theorem Text.linear_le : Linear Text.le := linear_not_lt

theorem Bytes.linear_le : Linear Bytes.le := linear_not_lt

namespace ProcessEnv

section

variable {α : Type} [DecidableEq α] {le : α → α → Bool}

theorem pairLe_iff {a b : α × α} :
    pairLe le a b = true ↔ a.1 = b.1 ∧ le a.2 b.2 = true ∨ a.1 ≠ b.1 ∧ le a.1 b.1 = true := by
  by_cases h : a.1 = b.1 <;> simp [pairLe, h]

theorem pairLe_trans (h : Linear le) (a b c : α × α) (hab : pairLe le a b = true)
    (hbc : pairLe le b c = true) : pairLe le a c = true := by
  rw [pairLe_iff] at hab hbc ⊢
  rcases hab with ⟨he, hab⟩ | ⟨hne, hab⟩ <;> rcases hbc with ⟨he', hbc⟩ | ⟨hne', hbc⟩
  · exact Or.inl ⟨he.trans he', h.trans _ _ _ hab hbc⟩
  · exact Or.inr ⟨he ▸ hne', he ▸ hbc⟩
  · exact Or.inr ⟨he' ▸ hne, he' ▸ hab⟩
  · exact Or.inr ⟨fun he => hne (h.antisymm _ _ hab (he ▸ hbc)), h.trans _ _ _ hab hbc⟩

theorem pairLe_total (h : Linear le) (a b : α × α) : (pairLe le a b || pairLe le b a) = true := by
  rw [Bool.or_eq_true, pairLe_iff, pairLe_iff]
  by_cases he : a.1 = b.1
  · rcases Bool.or_eq_true_iff.mp (h.total a.2 b.2) with hle | hle
    · exact Or.inl (Or.inl ⟨he, hle⟩)
    · exact Or.inr (Or.inl ⟨he.symm, hle⟩)
  · rcases Bool.or_eq_true_iff.mp (h.total a.1 b.1) with hle | hle
    · exact Or.inl (Or.inr ⟨he, hle⟩)
    · exact Or.inr (Or.inr ⟨Ne.symm he, hle⟩)

/-- Sorted entries do not descend in their names. -/
theorem pairwise_mergeSort (h : Linear le) (vs : List (α × α)) :
    (vs.mergeSort (pairLe le)).Pairwise fun v w => le v.1 w.1 = true := by
  refine (List.pairwise_mergeSort (pairLe_trans h) (pairLe_total h) vs).imp fun {v w} hle => ?_
  rcases pairLe_iff.mp hle with ⟨he, -⟩ | ⟨-, hle⟩
  · have hself := h.total v.1 v.1
    rw [Bool.or_self] at hself
    rwa [← he]
  · exact hle

end

/-- Sorted by bytes, names do not descend. -/
theorem pairwise_sortBytes (vs : List (Bytes × Bytes)) :
    (vs.mergeSort (pairLe Bytes.le)).Pairwise fun v w => ¬ w.1 < v.1 := by
  refine (pairwise_mergeSort Bytes.linear_le vs).imp fun {v w} hle => ?_
  rwa [Bytes.le, Bool.not_eq_true', decide_eq_false_iff_not] at hle

end ProcessEnv

section

variable {α β : Type} [LT α] {vs ws : List (List α × β)}

/-- Names that do not descend ascend if none comes twice. -/
theorem ascending_of_nodup [Std.Trichotomous fun a b : α => a < b]
    (h : vs.Pairwise fun v w => ¬ w.1 < v.1) (hn : (vs.map Prod.fst).Nodup) :
    vs.Pairwise fun v w => v.1 < w.1 := by
  refine (h.and (List.pairwise_map.mp hn)).imp ?_
  rintro v w ⟨hle, hne⟩
  by_contra hlt
  exact hne (List.le_antisymm (List.not_lt.mp hle) (List.not_lt.mp hlt))

theorem nodup_of_ascending [Std.Irrefl fun a b : α => a < b]
    (h : vs.Pairwise fun v w => v.1 < w.1) : (vs.map Prod.fst).Nodup := by
  refine List.pairwise_map.mpr (h.imp ?_)
  intro v w hlt heq
  rw [heq] at hlt
  exact List.lt_irrefl w.1 hlt

/-- In the order of their names the same entries are the same list. -/
theorem eq_of_perm_of_ascending [Std.Asymm fun a b : α => a < b] (h : vs.Perm ws)
    (hv : vs.Pairwise fun v w => v.1 < w.1) (hw : ws.Pairwise fun v w => v.1 < w.1) : vs = ws := by
  refine h.eq_of_pairwise ?_ hv hw
  intro v w _ _ hlt hgt
  exact absurd hgt (List.lt_asymm hlt)

end

namespace Environment

/-- Among what programs inherit no name comes twice. -/
def EachOnce (e : Environment) : Prop := (e.snapshot.map Prod.fst).Nodup

instance (e : Environment) : Decidable e.EachOnce := by unfold EachOnce; infer_instance

theorem ascending_snapshot_sorted (e : SortedEnv) :
    (sorted e).snapshot.Pairwise fun v w => v.1 < w.1 :=
  List.pairwise_map.mpr (e.ascending.imp Text.encode_lt_of_lt)

/-- A session's own variables come once each. -/
theorem eachOnce_sorted (e : SortedEnv) : (sorted e).EachOnce :=
  nodup_of_ascending (ascending_snapshot_sorted e)

/-- What programs inherit does not descend in its names. -/
theorem pairwise_snapshot (e : Environment) : e.snapshot.Pairwise fun v w => ¬ w.1 < v.1 := by
  cases e with
  | sorted e => exact (ascending_snapshot_sorted e).imp fun hlt => List.lt_asymm hlt
  | process e => exact ProcessEnv.pairwise_sortBytes _

/-- **Programs inherit variables by ascending names.** -/
theorem ascending_snapshot {e : Environment} (h : e.EachOnce) :
    e.snapshot.Pairwise fun v w => v.1 < w.1 := ascending_of_nodup e.pairwise_snapshot h

end Environment

end AliasShell
