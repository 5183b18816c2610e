/-
How a text spells tokens.

`tokens` takes a text apart and fails where a number has no 64-bit form.  `Spells` says which text
stands for which tokens without any such bound: a run of digits is the number it denotes, whatever
its size.  Names and runs of digits are as long as they can be, and white space may stand anywhere
between tokens.

`tokens_of_spells` is what the two have to do with each other: a text that spells tokens is taken
apart into just these, unless one of its numbers does not fit, and then that is the error, whatever
else the text holds.
-/
import AliasShell.Calc.Token
import Mathlib.Algebra.Order.Ring.Nat
import Mathlib.Tactic.Ring

namespace AliasShell

/-! ### Numbers of digits -/

namespace Integer

theorem foldl_digits (n : Nat) (ds : Text) :
    ds.foldl (fun n d => 10 * n + (d.toNat - '0'.toNat)) n = n * 10 ^ ds.length + ofDigits ds := by
  induction ds generalizing n with
  | nil => simp [ofDigits]
  | cons d ds ih =>
      rw [ofDigits, List.foldl_cons, List.foldl_cons, ih, ih, List.length_cons]
      ring

theorem ofDigits_cons (d : Char) (ds : Text) :
    ofDigits (d :: ds) = (d.toNat - '0'.toNat) * 10 ^ ds.length + ofDigits ds := by
  rw [ofDigits, List.foldl_cons, foldl_digits, Nat.mul_zero, Nat.zero_add]

/-- Zeros in front count for nothing. -/
theorem ofDigits_dropWhile_zero (ds : Text) :
    ofDigits (ds.dropWhile (· == '0')) = ofDigits ds := by
  induction ds with
  | nil => rfl
  | cons d ds ih =>
      by_cases hd : d = '0'
      · subst hd
        rw [List.dropWhile_cons_of_pos (by rfl), ih, ofDigits_cons, Nat.sub_self, Nat.zero_mul,
          Nat.zero_add]
      · rw [List.dropWhile_cons_of_neg (by simpa using hd)]

/-- A number of more than nineteen digits is greater than every 64-bit integer. -/
theorem greatest_lt_ofDigits {ds : Text} (hdigits : ∀ d ∈ ds, isDigit d = true)
    (hlead : ds.head? ≠ some '0') (hlength : 19 < ds.length) : greatest < (ofDigits ds : Int) := by
  cases ds with
  | nil => cases hlength
  | cons d ds =>
      have hd : isDigit d = true := hdigits d (by simp)
      have hne : d ≠ '0' := by simpa using hlead
      have hpos : 1 ≤ d.toNat - '0'.toNat := by
        have hrange : 48 ≤ d.toNat := by
          simp only [isDigit, Char.isDigit, Bool.and_eq_true, decide_eq_true_eq] at hd
          exact UInt32.le_iff_toNat_le.mp hd.1
        have hfirst : d.toNat ≠ 48 := fun h => hne (Char.toNat_inj.mp h)
        show 1 ≤ d.toNat - 48
        omega
      have hpow : 10 ^ 19 ≤ 10 ^ ds.length :=
        Nat.pow_le_pow_right (by decide) (by simpa using Nat.le_of_lt_succ hlength)
      have hle : 10 ^ 19 ≤ ofDigits (d :: ds) := by
        rw [ofDigits_cons]
        calc 10 ^ 19 ≤ 1 * 10 ^ ds.length := by rwa [Nat.one_mul]
          _ ≤ (d.toNat - '0'.toNat) * 10 ^ ds.length := Nat.mul_le_mul_right _ hpos
          _ ≤ _ := Nat.le_add_right _ _
      rw [greatest]
      omega

end Integer

namespace Token

/-- A run of digits is read as the number that it denotes, if that fits. -/
theorem readNumber_digits {ds : Text} (h : ∀ d ∈ ds, isDigit d = true) :
    readNumber ds = Value.ofInt (Integer.ofDigits ds) := by
  have hcut : ds.cutFirst (· == '.') = none := by
    induction ds with
    | nil => rfl
    | cons d ds ih =>
        have hd : (d == '.') = false := by
          have := h d (by simp)
          simp only [beq_eq_false_iff_ne, ne_eq]
          rintro rfl
          cases this
        rw [Text.cutFirst, hd, ih fun c hc => h c (by simp [hc])]
        rfl
  rw [readNumber, hcut]
  show readWhole ds = _
  unfold readWhole
  simp only
  split
  · next hlength =>
      have hsignificant : ∀ d ∈ ds.dropWhile (· == '0'), isDigit d = true := fun d hd =>
        h d ((List.dropWhile_suffix _).subset hd)
      have hlead : (ds.dropWhile (· == '0')).head? ≠ some '0' := by
        intro hzero
        have := List.head?_dropWhile_not (· == '0') ds
        rw [hzero] at this
        cases this
      have hgreat := Integer.greatest_lt_ofDigits hsignificant hlead hlength
      rw [Integer.ofDigits_dropWhile_zero] at hgreat
      rw [Value.ofInt_eq_error fun hrange => absurd hrange.2 (by omega)]
  · rw [Integer.ofDigits_dropWhile_zero]

/-- The token is no number, or one that fits. -/
def Fits : Token → Prop
  | .number (.int i) => Integer.InRange i
  | _ => True

instance : DecidablePred Fits := fun t => by
  unfold Fits
  split <;> infer_instance

theorem forall_fits_iff {ts : List Token} :
    (∀ t ∈ ts, t.Fits) ↔ ∀ i, .number (.int i) ∈ ts → Integer.InRange i := by
  constructor
  · exact fun h i hi => h _ hi
  · intro h t ht
    rcases t with (i | x) | _ | _ | _ | _ | _ | _
    · exact h i ht
    all_goals trivial

/-! ### Characters

A character begins tokens of one kind at most, so the order in which the kinds are tried does not
matter.
-/

theorem isBlank_of_isDigit {c : Char} (h : isDigit c = true) : isBlank c = false := by
  have hrange : 48 ≤ c.toNat ∧ c.toNat ≤ 57 := by
    simp only [isDigit, Char.isDigit, Bool.and_eq_true, decide_eq_true_eq] at h
    exact ⟨UInt32.le_iff_toNat_le.mp h.1, UInt32.le_iff_toNat_le.mp h.2⟩
  simp only [isBlank, Bool.or_eq_false_iff, Bool.and_eq_false_iff, decide_eq_false_iff_not,
    beq_eq_false_iff_ne, ne_eq]
  omega

/-- The characters that begin a token of their own. -/
theorem mem_of_ofChar? {c : Char} {token : Token} (h : ofChar? c = some token) :
    c ∈ "+-*/%^(),".toList := by
  unfold ofChar? at h
  split at h <;> first | decide | cases h

theorem symbol_only {c : Char} (h : c ∈ "+-*/%^(),".toList) :
    isBlank c = false ∧ isNumberChar c = false ∧ startsName c = false := by
  have hall : ("+-*/%^(),".toList.all fun c =>
      !isBlank c && !isNumberChar c && !startsName c) = true := by decide
  simpa [and_assoc] using List.all_eq_true.mp hall c h

/-- The code points of white space. -/
def blankNumbers : List Nat :=
  List.range' 9 5 ++ [32, 133, 160, 5760] ++ List.range' 8192 11 ++ [8232, 8233, 8239, 8287, 12288]

theorem mem_blankNumbers {c : Char} (h : isBlank c = true) : c.toNat ∈ blankNumbers := by
  simp only [isBlank, Bool.or_eq_true, Bool.and_eq_true, decide_eq_true_eq, beq_iff_eq] at h
  simp only [blankNumbers, List.mem_append, List.mem_range'_1, List.mem_cons, List.not_mem_nil,
    or_false]
  omega

/-- The code points of white space, digits and the point, none of which is a letter. -/
def separateNumbers : List Nat := blankNumbers ++ 46 :: List.range' 48 10

theorem separate_not_letter : ∀ n ∈ separateNumbers,
    Letter.alphabetic.contains n = false ∧ n ≠ '_'.toNat := by
  decide +kernel

theorem name_only {c : Char} (h : startsName c = true) :
    isBlank c = false ∧ isNumberChar c = false := by
  have hseparate : c.toNat ∉ separateNumbers := by
    intro hmem
    obtain ⟨hletter, hunderscore⟩ := separate_not_letter _ hmem
    rcases Bool.or_eq_true_iff.mp h with hc | hc
    · rw [isLetter, hletter] at hc
      cases hc
    · rw [eq_of_beq hc] at hunderscore
      exact hunderscore rfl
  constructor
  · by_contra hblank
    exact hseparate (List.mem_append_left _ (mem_blankNumbers (Bool.not_eq_false _ ▸ hblank)))
  · by_contra hnumber
    refine hseparate (List.mem_append_right _ ?_)
    simp only [List.mem_range'_1, List.mem_cons]
    rcases Bool.or_eq_true_iff.mp (Bool.not_eq_false _ ▸ hnumber) with hc | hc
    · simp only [isDigit, Char.isDigit, Bool.and_eq_true, decide_eq_true_eq] at hc
      have hlow : 48 ≤ c.toNat := UInt32.le_iff_toNat_le.mp hc.1
      have hhigh : c.toNat ≤ 57 := UInt32.le_iff_toNat_le.mp hc.2
      omega
    · rw [eq_of_beq hc]
      decide

end Token

/-! ### One token after another -/

section Steps

open Token

variable {c : Char} {t : Text}

theorem tokens_blank (h : isBlank c = true) : tokens (c :: t) = tokens t := by
  rw [tokens, if_pos h]

theorem tokens_symbol {token : Token} (h : ofChar? c = some token) :
    tokens (c :: t) = (tokens t >>= fun rest => .ok (token :: rest)) := by
  obtain ⟨hblank, hnumber, hname⟩ := symbol_only (mem_of_ofChar? h)
  rw [tokens, if_neg (by simp [hblank]), if_neg (by simp [hnumber]), if_neg (by simp [hname]), h]
  rfl

theorem takeWhile_append_of_head {p : Char → Bool} {run : Text} (hrun : ∀ d ∈ run, p d = true)
    (hnext : ∀ d ∈ t.head?, p d = false) :
    (run ++ t).takeWhile p = run ∧ (run ++ t).dropWhile p = t := by
  rw [List.takeWhile_append_of_pos hrun, List.dropWhile_append_of_pos hrun]
  cases t with
  | nil => simp
  | cons d t =>
      have hd : ¬ p d = true := by simpa using hnext d rfl
      rw [List.takeWhile_cons_of_neg hd, List.dropWhile_cons_of_neg hd, List.append_nil]
      exact ⟨rfl, rfl⟩

theorem tokens_digits {ds : Text} (hne : ds ≠ []) (hdigits : ∀ d ∈ ds, isDigit d = true)
    (hnext : ∀ d ∈ t.head?, isNumberChar d = false) :
    tokens (ds ++ t) =
      (Value.ofInt (Integer.ofDigits ds) >>= fun v =>
        tokens t >>= fun rest => .ok (.number v :: rest)) := by
  cases ds with
  | nil => exact absurd rfl hne
  | cons d ds =>
      have hd : isDigit d = true := hdigits d (by simp)
      have hrun : ∀ c ∈ ds, isNumberChar c = true := fun c hc => by
        simp [isNumberChar, hdigits c (by simp [hc])]
      obtain ⟨htake, hdrop⟩ := takeWhile_append_of_head hrun hnext
      rw [List.cons_append, tokens, if_neg (by simp [isBlank_of_isDigit hd]),
        if_pos (by simp [isNumberChar, hd]), htake, hdrop, readNumber_digits hdigits]
      rfl

theorem tokens_name {n : Text} (hstart : startsName c = true)
    (hrun : ∀ d ∈ n, continuesName d = true) (hnext : ∀ d ∈ t.head?, continuesName d = false) :
    tokens (c :: n ++ t) = (tokens t >>= fun rest => .ok (.name (c :: n) :: rest)) := by
  obtain ⟨hblank, hnumber⟩ := name_only hstart
  obtain ⟨htake, hdrop⟩ := takeWhile_append_of_head hrun hnext
  rw [List.cons_append, tokens, if_neg (by simp [hblank]), if_neg (by simp [hnumber]),
    if_pos hstart, htake, hdrop]
  rfl

end Steps

/-! ### Spelling -/

/-- The text stands for these tokens; its numbers are whole and may be of any size. -/
inductive Spells : Text → List Token → Prop
  | nil : Spells [] []
  | blank {c : Char} {t : Text} {ts : List Token} (hc : isBlank c = true) (rest : Spells t ts) :
      Spells (c :: t) ts
  | symbol {c : Char} {t : Text} {ts : List Token} {token : Token}
      (hc : Token.ofChar? c = some token) (rest : Spells t ts) : Spells (c :: t) (token :: ts)
  | name {c : Char} {n t : Text} {ts : List Token} (hstart : Token.startsName c = true)
      (hrun : ∀ d ∈ n, Token.continuesName d = true)
      (hnext : ∀ d ∈ t.head?, Token.continuesName d = false) (rest : Spells t ts) :
      Spells (c :: n ++ t) (.name (c :: n) :: ts)
  | digits {ds t : Text} {ts : List Token} (hne : ds ≠ [])
      (hdigits : ∀ d ∈ ds, isDigit d = true)
      (hnext : ∀ d ∈ t.head?, Token.isNumberChar d = false) (rest : Spells t ts) :
      Spells (ds ++ t) (.number (.int (Integer.ofDigits ds)) :: ts)

/-- A run of digits, under conditions that can be evaluated. -/
theorem Spells.run (ds : Text) {t : Text} {ts : List Token} (hne : ds.isEmpty = false)
    (hdigits : ds.all isDigit = true)
    (hnext : (t.head?.all fun d => !Token.isNumberChar d) = true) (rest : Spells t ts) :
    Spells (ds ++ t) (.number (.int (Integer.ofDigits ds)) :: ts) := by
  refine .digits (List.isEmpty_eq_false_iff.mp hne) (List.all_eq_true.mp hdigits) ?_ rest
  intro d hd
  rw [Option.mem_def.mp hd] at hnext
  simpa using hnext

/-- The tokens, if all of them fit. -/
def fitting (ts : List Token) : Except CalcError (List Token) :=
  if ∀ t ∈ ts, t.Fits then .ok ts else .error .overflow

theorem fitting_cons {token : Token} (h : token.Fits) (ts : List Token) :
    fitting (token :: ts) = (fitting ts >>= fun rest => .ok (token :: rest)) := by
  unfold fitting
  by_cases hrest : ∀ t ∈ ts, t.Fits
  · rw [if_pos hrest, if_pos (List.forall_mem_cons.mpr ⟨h, hrest⟩)]
    rfl
  · rw [if_neg hrest, if_neg fun hall => hrest (List.forall_mem_cons.mp hall).2]
    rfl

theorem fitting_cons_error {token : Token} (h : ¬ token.Fits) (ts : List Token) :
    fitting (token :: ts) = .error .overflow :=
  if_neg fun hall => h (List.forall_mem_cons.mp hall).1

/-- **A text is taken apart into the tokens that it spells**, or else a number does not fit. -/
theorem tokens_of_spells {text : Text} {ts : List Token} (h : Spells text ts) :
    tokens text = fitting ts := by
  induction h with
  | nil => rw [tokens, fitting, if_pos (by simp)]
  | blank hc _ ih => rw [tokens_blank hc, ih]
  | @symbol c t ts token hc _ ih =>
      have hfits : token.Fits := by
        cases token with
        | number v => exact absurd hc (by unfold Token.ofChar?; split <;> simp)
        | _ => trivial
      rw [tokens_symbol hc, ih, fitting_cons hfits]
  | @name c n t ts hstart hrun hnext _ ih =>
      have hfits : (Token.name (c :: n)).Fits := trivial
      rw [tokens_name hstart hrun hnext, ih, fitting_cons hfits]
  | @digits ds t ts hne hdigits hnext _ ih =>
      rw [tokens_digits hne hdigits hnext, ih]
      by_cases hfits : Integer.InRange (Integer.ofDigits ds)
      · rw [Value.ofInt_eq_ok hfits, fitting_cons (show Token.Fits (.number (.int _)) from hfits)]
        rfl
      · rw [Value.ofInt_eq_error hfits,
          fitting_cons_error (show ¬ Token.Fits (.number (.int _)) from hfits)]
        rfl

theorem tokens_of_spells_of_fits {text : Text} {ts : List Token} (h : Spells text ts)
    (hfits : ∀ token ∈ ts, token.Fits) : tokens text = .ok ts := by
  rw [tokens_of_spells h, fitting, if_pos hfits]

end AliasShell
