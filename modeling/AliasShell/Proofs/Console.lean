/-
What stands in an output channel.

A channel keeps what was written by the shell, by programs and by the reader of lines
in one order, and it may run full for the shell.  Two channels are compared here in
two ways.

For reports it counts what the shell itself has written: `SameOwn` channels take the
same writes and have the same in them, wherever programs have written in between.

For output everything counts but the prompts.  `Shifted` channels differ in something
that the shell wrote into one of them early on.  Where channels are limited, that is
room missing later, so they stay comparable only while the other one has that room
left: `Shifted.write`.
-/
import AliasShell.Console

namespace AliasShell

namespace Console

variable {c d e : Console}

/-! ### One entry -/

theorem write_unlimited {c : Console} (h : c.room = none) (b : Bytes) :
    c.write b = (⟨none, c.log ++ [(.shell, b)]⟩, true) := by
  rw [write, h]

theorem write_limited {c : Console} {n : Nat} (h : c.room = some n) (b : Bytes) :
    c.write b = (⟨some (n - b.length), c.log ++ [(.shell, b.take n)]⟩, decide (b.length ≤ n)) := by
  rw [write, h]

theorem written_append_self (room : Option Nat) (c : Console) (o : Origin) (b : Bytes) :
    (Console.mk room (c.log ++ [(o, b)])).written o = c.written o ++ b := by
  have hone : [(o, b)].filter (fun e => e.1 == o) = [(o, b)] :=
    List.filter_cons_of_pos (beq_self_eq_true o)
  rw [written, List.filter_append, hone, List.flatMap_append, List.flatMap_singleton, written]

theorem written_append_other {o p : Origin} (h : (p == o) = false) (room : Option Nat)
    (c : Console) (b : Bytes) :
    (Console.mk room (c.log ++ [(p, b)])).written o = c.written o := by
  have hnone : [(p, b)].filter (fun e => e.1 == o) = [] :=
    List.filter_cons_of_neg (Bool.eq_false_iff.mp h)
  rw [written, List.filter_append, hnone, List.append_nil, written]

/-- A write that is taken is there in full, and the room has become smaller by it. -/
theorem write_taken {c : Console} {b : Bytes} (h : (c.write b).2 = true) :
    ∃ room, (c.write b).1 = ⟨room, c.log ++ [(.shell, b)]⟩ ∧ c.room = room.map (· + b.length) := by
  cases hc : c.room with
  | none =>
      rw [write_unlimited hc]
      exact ⟨none, rfl, rfl⟩
  | some n =>
      rw [write_limited hc] at h ⊢
      have hle : b.length ≤ n := of_decide_eq_true h
      refine ⟨some (n - b.length), ?_, ?_⟩
      · rw [List.take_of_length_le hle]
      · rw [Option.map_some, Nat.sub_add_cancel hle]

/-- What becomes of a write depends on the room only. -/
theorem write_of_room (c : Console) (b : Bytes) :
    ∃ taken room, ∀ d : Console, d.room = c.room →
      (d.write b).1 = ⟨room, d.log ++ [(.shell, taken)]⟩ := by
  cases hc : c.room with
  | none => exact ⟨b, none, fun d hd => by rw [write_unlimited hd]⟩
  | some n => exact ⟨b.take n, some (n - b.length), fun d hd => by rw [write_limited hd]⟩

/-! ### Writes of the shell -/

/-- The channel after writes of the shell. -/
def writeAll (c : Console) (bs : List Bytes) : Console := bs.foldl (fun c b => (c.write b).1) c

/-- The shell has written the same to both channels, and can go on with the same. -/
structure SameOwn (c d : Console) : Prop where
  room : c.room = d.room
  written : c.written .shell = d.written .shell

theorem written_child_writeAll (c : Console) (bs : List Bytes) :
    (c.writeAll bs).written .child = c.written .child := by
  induction bs generalizing c with
  | nil => rfl
  | cons b bs ih =>
      obtain ⟨taken, room, hwrite⟩ := c.write_of_room b
      rw [writeAll, List.foldl_cons]
      refine (ih _).trans ?_
      rw [hwrite c rfl, written_append_other rfl]

theorem writeAll_append (c : Console) (as bs : List Bytes) :
    c.writeAll (as ++ bs) = (c.writeAll as).writeAll bs := List.foldl_append

namespace SameOwn

theorem refl (c : Console) : c.SameOwn c := ⟨rfl, rfl⟩

theorem trans (h : c.SameOwn d) (h' : d.SameOwn e) : c.SameOwn e :=
  ⟨h.room.trans h'.room, h.written.trans h'.written⟩

theorem childWrote (c : Console) (b : Bytes) : (c.childWrote b).SameOwn c :=
  ⟨rfl, written_append_other rfl c.room c b⟩

theorem writeAll (h : c.SameOwn d) (bs : List Bytes) : (c.writeAll bs).SameOwn (d.writeAll bs) := by
  induction bs generalizing c d with
  | nil => exact h
  | cons b bs ih =>
      obtain ⟨taken, room, hwrite⟩ := d.write_of_room b
      refine ih (c := (c.write b).1) (d := (d.write b).1) ?_
      rw [hwrite c h.room, hwrite d rfl]
      exact ⟨rfl, by rw [written_append_self, written_append_self, h.written]⟩

end SameOwn

/-! ### Everything but the prompts -/

/-- What the shell and its programs have written, without the prompts. -/
def shown (c : Console) : List (Origin × Bytes) := c.log.filter (·.1 != .reader)

/-- The shell can write this many bytes more. -/
def HasRoom (c : Console) (n : Nat) : Prop := ∀ m ∈ c.room, n ≤ m

instance (c : Console) (n : Nat) : Decidable (c.HasRoom n) := by
  unfold HasRoom
  cases c.room <;> infer_instance

/-- The second channel has had `extra` from the shell after `before`, the first one has not, and
since then they have had the same. -/
structure Shifted (before : List (Origin × Bytes)) (extra : List Bytes) (c d : Console) : Prop where
  shown : ∃ since, c.shown = before ++ since ∧ d.shown = before ++ extra.map (.shell, ·) ++ since
  room : c.room = d.room.map (· + extra.flatten.length)

theorem shown_append {c d : Console} {o : Origin} {b : Bytes} (ho : (o != .reader) = true)
    (h : d.log = c.log ++ [(o, b)]) : d.shown = c.shown ++ [(o, b)] := by
  have hone : [(o, b)].filter (fun e => e.1 != Origin.reader) = [(o, b)] :=
    List.filter_cons_of_pos ho
  rw [shown, h, List.filter_append, hone]
  rfl

theorem HasRoom.of_write {c : Console} {b : Bytes} {n : Nat} (h : (c.write b).1.HasRoom n) :
    c.HasRoom n := by
  intro m hm
  rw [Option.mem_def] at hm
  rw [write_limited hm] at h
  have hle : n ≤ m - b.length := h _ rfl
  omega

namespace Shifted

variable {before : List (Origin × Bytes)} {extra : List Bytes} {c d c' d' : Console}

theorem refl (c : Console) : c.Shifted c.shown [] c := by
  refine ⟨⟨[], (List.append_nil _).symm, ?_⟩, ?_⟩
  · rw [List.map_nil, List.append_nil, List.append_nil]
  · cases h : c.room <;> rfl

/-- A write that is taken shifts what follows. -/
theorem of_write {b : Bytes} (h : (c.write b).2 = true) : c.Shifted c.shown [b] (c.write b).1 := by
  obtain ⟨room, hwrite, hroom⟩ := write_taken h
  rw [hwrite]
  refine ⟨⟨[], (List.append_nil _).symm, ?_⟩, ?_⟩
  · rw [shown_append rfl (rfl : (Console.mk room (c.log ++ [(.shell, b)])).log = _),
      List.append_nil]
    rfl
  · rw [List.flatten_singleton, hroom]

/-- The same entry behind both. -/
theorem append {o : Origin} {b : Bytes} (h : c.Shifted before extra d)
    (ho : (o != .reader) = true) (hc : c'.log = c.log ++ [(o, b)]) (hd : d'.log = d.log ++ [(o, b)])
    (hroom : c'.room = d'.room.map (· + extra.flatten.length)) : c'.Shifted before extra d' := by
  obtain ⟨since, hcs, hds⟩ := h.shown
  refine ⟨⟨since ++ [(o, b)], ?_, ?_⟩, hroom⟩
  · rw [shown_append ho hc, hcs, List.append_assoc]
  · rw [shown_append ho hd, hds, List.append_assoc]

/-- **What leaves room for the rest is taken by both.** -/
theorem write (h : c.Shifted before extra d) {b : Bytes}
    (hroom : (c.write b).1.HasRoom extra.flatten.length) :
    (c.write b).2 = (d.write b).2 ∧ (c.write b).1.Shifted before extra (d.write b).1 := by
  have hc := h.room
  cases hd : d.room with
  | none =>
      rw [hd, Option.map_none] at hc
      rw [write_unlimited hc, write_unlimited hd]
      exact ⟨rfl, h.append rfl rfl rfl rfl⟩
  | some m =>
      rw [hd, Option.map_some] at hc
      rw [write_limited hc] at hroom ⊢
      rw [write_limited hd]
      -- there is nothing missing, or the write fits either way
      have hfits : extra.flatten.length = 0 ∨ b.length ≤ m := by
        have hle : extra.flatten.length ≤ m + extra.flatten.length - b.length := hroom _ rfl
        omega
      have htake : b.take (m + extra.flatten.length) = b.take m := by
        rcases hfits with hnil | hle
        · rw [hnil, Nat.add_zero]
        · rw [List.take_of_length_le hle, List.take_of_length_le (by omega)]
      have hleft : m + extra.flatten.length - b.length = m - b.length + extra.flatten.length := by
        omega
      constructor
      · exact decide_eq_decide.mpr (by omega)
      · rw [htake]
        exact h.append rfl rfl rfl (congrArg some hleft)

theorem childWrote (h : c.Shifted before extra d) (b : Bytes) :
    (c.childWrote b).Shifted before extra (d.childWrote b) :=
  h.append rfl rfl rfl h.room

/-- Prompts do not count. -/
theorem prompted (h : c.Shifted before extra d) (b : Bytes) :
    c.Shifted before extra (d.prompted b) := by
  have hshown : (d.prompted b).shown = d.shown := by
    rw [Console.shown, Console.prompted, List.filter_append, Console.shown]
    exact List.append_nil _
  exact ⟨hshown ▸ h.shown, h.room⟩

end Shifted

end Console

end AliasShell
