/-
A variable that is set to the value of an expression.

What is typed behind `var match NAME =` goes through many hands before it is
computed: the line is cut at `;`, then at white space, the words are joined with
spaces, and blanks and `;` are taken off the ends.  Without a `;` in it all that is
left of this is that the words stand one space apart, and that does not show in the
value or in the error.  A value can always be stored.

So `run_match` says that the value is that of the expression as it was typed, that
it is set if there is one, and that otherwise its error is all that happens.
-/
import AliasShell.Proofs.Calc.Printed
import AliasShell.Proofs.Calc.Words
import AliasShell.Proofs.Dispatch.Limit
import AliasShell.Proofs.Environment

namespace AliasShell

namespace Builtin.Var

/-- Tokens make the expression that they are joined to. -/
theorem expression_of_tokens {ws : List Text} (h : ∀ w ∈ ws, IsToken w) :
    expression ws = Text.unwords ws := by
  have hwords : ∀ w ∈ ws, Text.IsWord w := fun w hw => (h w hw).toIsWord
  rw [expression, Text.trim_unwords hwords, Text.dropEnd]
  cases hrev : (Text.unwords ws).reverse with
  | nil =>
      rw [List.reverse_eq_nil_iff.mp hrev]
      rfl
  | cons c cs =>
      have hlast : (Text.unwords ws).getLast? = some c := by
        rw [← List.head?_reverse, hrev]
        rfl
      have hsolid : isBlank c = false := Text.getLast?_unwords hwords c hlast
      have hsep : c ≠ ';' := by
        rintro rfl
        exact separator_not_mem_unwords h (List.mem_of_getLast? hlast)
      have hspace : c ≠ ' ' := by
        rintro rfl
        cases hsolid
      rw [List.dropWhile_cons_of_neg (by simp [hsep, hspace]), ← hrev, List.reverse_reverse]

end Builtin.Var

namespace Dispatch

/-- Setting a variable to the value of an expression, as it is typed. -/
def matchLine (name expression : Text) : Text := "var match " ++ name ++ " = " ++ expression

section

variable {name expression : Text}

/-- What is typed is words joined with spaces up to the expression. -/
theorem matchLine_eq (name expression : Text) :
    matchLine name expression =
      Text.unwords ["var", "match", name, ['=']] ++ ' ' :: expression := by
  have hfront : "var match ".toList = "var".toList ++ ' ' :: ("match".toList ++ [' ']) := rfl
  have hequals : " = ".toList = [' ', '=', ' '] := rfl
  have hjoined : ∀ v w : Text, v ++ ' ' :: (w ++ [' ']) ++ name ++ [' ', '=', ' '] ++ expression =
      Text.unwords [v, w, name, ['=']] ++ ' ' :: expression := by
    intro v w
    simp [Text.unwords_cons_cons]
  unfold matchLine
  rw [hfront, hequals, hjoined]

theorem isToken_matchLine (hname : IsToken name) :
    ∀ w ∈ ["var".toList, "match".toList, name, ['=']], IsToken w := by
  have hvar : IsToken "var".toList := by decide
  have hmatch : IsToken "match".toList := by decide
  have hequals : IsToken ['='] := by decide
  simp only [List.forall_mem_cons]
  exact ⟨hvar, hmatch, hname, hequals, fun _ h => absurd h List.not_mem_nil⟩

/-- It is one command, and of the expression there are no more than its words in it. -/
theorem commands_matchLine (hname : IsToken name) (hsep : ';' ∉ expression) :
    commands (matchLine name expression) =
      [⟨"var", "match" :: name :: ['='] :: expression.words⟩] := by
  have htokens := isToken_matchLine hname
  have hline : ';' ∉ Text.unwords ["var", "match", name, ['=']] ++ ' ' :: expression :=
    List.not_mem_append (separator_not_mem_unwords htokens) (by simpa using hsep)
  rw [matchLine_eq, commands_of_not_mem hline, Text.words_append_blank rfl,
    Text.words_unwords fun w hw => (htokens w hw).toIsWord]
  rfl

/-- The line computes what its words make. -/
theorem run_matchLine {x : Executor} {s : Session} (hvar : s.aliases.get? "var" = none)
    (hname : IsToken name) (hsep : ';' ∉ expression)
    (hsolid : ∃ c ∈ expression, isBlank c = false) :
    run x (matchLine name expression) s =
      (.ofResult (Builtin.Var.compute name expression.words s).2,
        (Builtin.Var.compute name expression.words s).1) := by
  obtain ⟨w, ws, hws⟩ := List.exists_cons_of_ne_nil (Text.words_ne_nil hsolid)
  have haction : Builtin.action? "var" = some Builtin.Var.run := rfl
  rw [run_builtin x (commands_matchLine hname hsep) hvar haction, hws]
  rfl

end

/-- **`var match` computes what was typed.**  However the expression is spaced, its value is the one
it has as it was typed, and the variable is set to it; and if it has none, the reason is reported,
and nothing has happened. -/
theorem run_match (x : Executor) {s : Session} {name expression : Text}
    (hevaluator : s.evaluator = evaluateText) (hvar : s.aliases.get? "var" = none)
    (hname : name ≠ [] ∧ ∀ c ∈ name, isBlank c = false ∧ c ≠ ';' ∧ c ≠ '=' ∧ c ≠ '\x00')
    (hsep : ';' ∉ expression) (hsolid : ∃ c ∈ expression, isBlank c = false) :
    (∀ value, evaluateText expression = .ok value →
      ∃ env, run x (matchLine name expression) s = (.quiet, { s with env }) ∧
        s.env.SetTo name value env) ∧
    (∀ cause, evaluateText expression = .error cause →
      run x (matchLine name expression) s =
        (.failure (.evaluator (Text.unwords expression.words) cause), s)) := by
  obtain ⟨hne, hchars⟩ := hname
  have htoken : IsToken name := ⟨⟨hne, fun c hc => (hchars c hc).1⟩, fun h => (hchars _ h).2.1 rfl⟩
  have hvalid : Environment.ValidName name :=
    ⟨hne, fun h => (hchars _ h).2.2.1 rfl, fun h => (hchars _ h).2.2.2 rfl⟩
  have hwords : ∀ w ∈ expression.words, IsToken w := fun w hw =>
    ⟨Text.mem_words hw, fun h => hsep (Text.mem_of_mem_words hw _ h)⟩
  have htyped : Builtin.Var.expression expression.words = Text.unwords expression.words :=
    Builtin.Var.expression_of_tokens hwords
  have hcomputed : s.evaluator (Builtin.Var.expression expression.words) =
      evaluateText expression := by
    rw [hevaluator, htyped, evaluateText_respaced]
  rw [run_matchLine hvar htoken hsep hsolid]
  constructor
  · intro value hvalue
    obtain ⟨v, -, rfl⟩ := evaluateText_eq_ok.mp hvalue
    obtain ⟨env, hset, hto⟩ := s.env.set_setTo hvalid v.validValue_text
    refine ⟨env, ?_, hto⟩
    simp only [Builtin.Var.compute, hcomputed, hvalue, Session.setVar, hset]
    rfl
  · intro cause hcause
    rw [← htyped]
    simp only [Builtin.Var.compute, hcomputed, hcause]
    rfl

/-- Spaced with tabs, line ends and an ideographic space: a variable of the process with a new value,
and a division by zero, which is quoted with single spaces. -/
theorem run_match_respaced :
    let x : Executor := ⟨Scripted.launcher ⟨[], [], [], []⟩, none⟩
    let s : Session :=
      { Session.fresh "/" with
        env := .process ⟨[Text.encode "N=1", Text.encode "ANSWER=?", Text.encode "A=2"]⟩ }
    (∃ env, run x (matchLine "ANSWER" "\t6\u3000*\n( 3\t+4 )") s = (.quiet, { s with env }) ∧
      s.env.SetTo "ANSWER" "42" env) ∧
    run x (matchLine "ANSWER" "1\u3000/\t0") s =
      (.failure (.evaluator "1 / 0" .divisionByZero), s) := by
  intro x s
  have hname : "ANSWER".toList ≠ [] ∧
      ∀ c ∈ "ANSWER".toList, isBlank c = false ∧ c ≠ ';' ∧ c ≠ '=' ∧ c ≠ '\x00' := by
    have hall : ("ANSWER".toList.all fun c =>
        decide (isBlank c = false ∧ c ≠ ';' ∧ c ≠ '=' ∧ c ≠ '\x00')) = true := by decide +kernel
    exact ⟨by decide +kernel, fun c hc => of_decide_eq_true (List.all_eq_true.mp hall c hc)⟩
  have hvar : s.aliases.get? "var" = none := rfl
  constructor
  · exact (run_match x rfl hvar hname (by decide +kernel) ⟨'6', by decide +kernel, rfl⟩).1 "42"
      (by decide +kernel)
  · have hquoted : Text.unwords (Text.words "1\u3000/\t0") = "1 / 0".toList := by decide +kernel
    rw [← hquoted]
    exact (run_match x rfl hvar hname (by decide +kernel) ⟨'1', by decide +kernel, rfl⟩).2
      .divisionByZero (by decide +kernel)

end Dispatch

end AliasShell
