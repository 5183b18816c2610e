/-
What a run goes through.

Whatever lines and aliases they stem from, commands are routed one after another.  A
`Turn` is one of them with the session that it finds, and `history` lists the turns that
lines come to.  Each of them finds the session that the one before it left, and the last
one leaves the session that there is after the lines: `leads_history`.  What holds at any
point of a run is a matter of the turns up to that point, and what holds of the requests
that programs are started by is a matter of the turns that make them, since a request is
made in a turn and carries the directory and the variables that the turn finds:
`Turn.carried`.
-/
import AliasShell.Proofs.Dispatch.Replay

namespace AliasShell

namespace Dispatch

/-- A command whose turn it is, and the session that it finds. -/
structure Turn where
  command : Command
  session : Session

namespace Turn

/-- What the command reports, and the session that it leaves. -/
def outcome (x : Executor) (t : Turn) : Report × Session := route x t.command t.session

/-- The session that it leaves. -/
def left (x : Executor) (t : Turn) : Session := (t.outcome x).2

/-- The requests that it makes. -/
def requests (x : Executor) (t : Turn) : List Request :=
  (t.left x).requests.drop t.session.requests.length

end Turn

/-- The turns of commands that are routed one after another until one of them exits. -/
def turns (x : Executor) : List Command → Session → List Turn
  | [], _ => []
  | c :: cs, s =>
    ⟨c, s⟩ :: if (route x c s).1.exit.isSome then [] else turns x cs (route x c s).2

/-- The turns of lines. -/
def history (x : Executor) : List Text → Session → List Turn
  | [], _ => []
  | line :: lines, s => turns x (routedBy x line s) s ++ history x lines (run x line s).2

/-- These turns, one after another, lead from one session to the other. -/
inductive Leads (x : Executor) : Session → List Turn → Session → Prop
  | nil (s : Session) : Leads x s [] s
  | cons {t : Turn} {ts : List Turn} {s : Session} (rest : Leads x (t.left x) ts s) :
      Leads x t.session (t :: ts) s

namespace Leads

variable {x : Executor} {s s' s'' : Session} {t : Turn} {ts us : List Turn}

theorem append (h : Leads x s ts s') (h' : Leads x s' us s'') : Leads x s (ts ++ us) s'' := by
  induction h with
  | nil s => exact h'
  | cons rest ih => exact .cons (ih h')

/-- Between two turns there is one session. -/
theorem split (h : Leads x s (ts ++ us) s'') : ∃ s', Leads x s ts s' ∧ Leads x s' us s'' := by
  induction ts generalizing s with
  | nil => exact ⟨s, .nil s, h⟩
  | cons t ts ih =>
      cases h with
      | cons rest =>
          obtain ⟨s', hts, hus⟩ := ih rest
          exact ⟨s', .cons hts, hus⟩

/-- **A turn finds what those before it leave.** -/
theorem session (h : Leads x s (ts ++ t :: us) s'') :
    Leads x s ts t.session ∧ Leads x (t.left x) us s'' := by
  obtain ⟨s', hts, hus⟩ := h.split
  cases hus with
  | cons rest => exact ⟨hts, rest⟩

/-- What every turn keeps is kept. -/
theorem keeps {P : Session → Prop} (h : Leads x s ts s')
    (hP : ∀ t ∈ ts, P t.session → P (t.left x)) (hs : P s) : P s' := by
  induction h with
  | nil s => exact hs
  | cons rest ih =>
      exact ih (fun t ht => hP t (List.mem_cons_of_mem _ ht)) (hP _ List.mem_cons_self hs)

end Leads

section

variable {x : Executor}

theorem leads_turns (cs : List Command) (s : Session) :
    Leads x s (turns x cs s) (sequence (route x) cs s).2 := by
  induction cs generalizing s with
  | nil => exact .nil s
  | cons c cs ih =>
      rw [turns]
      cases he : (route x c s).1.exit with
      | none =>
          rw [sequence_cons_next he, if_neg (by simp)]
          exact @Leads.cons x ⟨c, s⟩ _ _ (ih _)
      | some code =>
          rw [sequence_cons_exit (by rw [he]; rfl), if_pos (by simp)]
          exact @Leads.cons x ⟨c, s⟩ [] _ (.nil _)

/-- **The turns of lines lead to the session after the lines.** -/
theorem leads_history (lines : List Text) (s : Session) :
    Leads x s (history x lines s) (after x lines s) := by
  induction lines generalizing s with
  | nil => exact .nil s
  | cons line lines ih =>
      have hline := leads_turns (x := x) (routedBy x line s) s
      rw [replay_line] at hline
      exact hline.append (ih _)

theorem turns_append (cs ds : List Command) (s : Session) :
    turns x (cs ++ ds) s =
      turns x cs s ++
        if (sequence (route x) cs s).1.exit.isSome then []
        else turns x ds (sequence (route x) cs s).2 := by
  induction cs generalizing s with
  | nil => rfl
  | cons c cs ih =>
      rw [List.cons_append, turns, turns]
      cases he : (route x c s).1.exit with
      | none =>
          simp only [sequence_cons_next he, ih, Option.isSome_none, Bool.false_eq_true, if_false,
            List.cons_append]
          rfl
      | some code =>
          simp only [sequence_cons_exit (by rw [he]; rfl), he, Option.isSome_some, if_true,
            List.append_nil]

/-- What holds of the turns of a sequence holds of those of its first step, and of those of the rest
if the first step does not exit. -/
theorem forall_turns_collect_cons {α : Type} {step : α → Session → Report × Session}
    {part : α → Session → List Command} {c : α} {cs : List α} {s : Session} {P : Turn → Prop}
    (hreplay : sequence (route x) (part c s) s = ((step c s).1.withoutLimits, (step c s).2))
    (h : ∀ t ∈ turns x (collect step part (c :: cs) s) s, P t) :
    (∀ t ∈ turns x (part c s) s, P t) ∧
      ((step c s).1.exit = none →
        ∀ t ∈ turns x (collect step part cs (step c s).2) (step c s).2, P t) := by
  rw [collect, turns_append, hreplay] at h
  refine ⟨fun t ht => h t (List.mem_append_left _ ht), fun he t ht => ?_⟩
  refine h t (List.mem_append_right _ ?_)
  have hexit : (step c s).1.withoutLimits.exit = none := he
  simp only [he, hexit, Option.isSome_none, Bool.false_eq_true, if_false]
  exact ht

theorem command_mem_of_mem_turns {cs : List Command} {s : Session} {t : Turn}
    (h : t ∈ turns x cs s) : t.command ∈ cs := by
  induction cs generalizing s with
  | nil => cases h
  | cons c cs ih =>
      rw [turns] at h
      rcases List.mem_cons.mp h with rfl | h
      · exact List.mem_cons_self
      · split at h
        · cases h
        · exact List.mem_cons_of_mem c (ih h)

/-- Commands whose turn it is are made of tokens. -/
theorem isToken_of_mem_history {lines : List Text} {s : Session} {t : Turn}
    (h : t ∈ history x lines s) : ∀ w ∈ t.command.toWords, IsToken w := by
  induction lines generalizing s with
  | nil => cases h
  | cons line lines ih =>
      rcases List.mem_append.mp h with h | h
      · exact isToken_of_mem_routed (command_mem_of_mem_turns h)
      · exact ih h

/-! ### The requests of a turn -/

/-- The requests carry the directory and the variables of the session. -/
def Carried (s : Session) (new : List Request) : Prop :=
  ∀ q ∈ new, q.cwd = s.cwd ∧ q.env = s.env.snapshot

theorem route_carried (c : Command) (s : Session) :
    ∃ new, (route x c s).2.requests = s.requests ++ new ∧ Carried s new := by
  cases ha : Builtin.action? c.verb with
  | some action =>
      rw [route_builtin x ha]
      have hsame := (Builtin.contained_of_action? ha c.args s).surroundings
      refine ⟨[], ?_, by rintro q ⟨⟩⟩
      rw [List.append_nil]
      exact congrArg Surroundings.requests hsame
  | none =>
      obtain ⟨r, hroute, -⟩ := route_program x ha s
      rw [hroute]
      refine x.spawn_keeps_put
        (P := fun s' => ∃ new, s'.requests = s.requests ++ new ∧ Carried s new) ?_
        ⟨[], (List.append_nil _).symm, by rintro q ⟨⟩⟩
      rintro q s' hq ⟨new, hnew, hcarried⟩
      refine ⟨new ++ [q], ?_, ?_⟩
      · rw [← List.append_assoc, ← hnew]
        rfl
      · intro r hr
        rcases List.mem_append.mp hr with hr | hr
        · exact hcarried r hr
        · rw [List.mem_singleton.mp hr]
          rcases hq with rfl | ⟨f, -, rfl⟩
          · exact ⟨rfl, rfl⟩
          · exact ⟨rfl, rfl⟩

namespace Turn

theorem requests_left (t : Turn) : (t.left x).requests = t.session.requests ++ t.requests x := by
  obtain ⟨new, hnew, -⟩ := route_carried (x := x) t.command t.session
  have hleft : (t.left x).requests = t.session.requests ++ new := hnew
  rw [requests, hleft, List.drop_left]

/-- **A request carries the directory and the variables that its turn finds.** -/
theorem carried (t : Turn) : Carried t.session (t.requests x) := by
  obtain ⟨new, hnew, hcarried⟩ := route_carried (x := x) t.command t.session
  have hleft : (t.left x).requests = t.session.requests ++ new := hnew
  rwa [requests, hleft, List.drop_left]

end Turn

/-- All requests are made in turns. -/
theorem Leads.requests {s s' : Session} {ts : List Turn} (h : Leads x s ts s') :
    s'.requests = s.requests ++ ts.flatMap (·.requests x) := by
  induction h with
  | nil s => exact (List.append_nil _).symm
  | cons rest ih => rw [ih, Turn.requests_left, List.flatMap_cons, List.append_assoc]

end

end Dispatch

end AliasShell
