import TapeMachine.Proofs.Refinement

/-! What blocks do wherever they stand. From a store a block has one result at most, so it either takes the
store to another one, or fails, or has no result at all. What a sequence does follows from what its parts
do, and what a loop does from its rounds: it ends with the first round that leaves zero in the current
cell, and never if no round does. -/

namespace TapeMachine

/-- As many increments as an integer says, or decrements if it is negative. -/
def Text.tally (n : Int) : Text :=
  List.replicate n.toNat (.ofChar '+') ++ List.replicate (-n).toNat (.ofChar '-')

namespace Machine

namespace Store

/-! ### Adding to cells -/

variable {size : Nat}

/-- The store with an amount added to a cell. -/
def add (s : Store size) (i : Fin size) (amount : Int) : Store size :=
  { s with cells := s.cells.set i.val (s.cells[i.val] + amount) i.isLt }

variable {i j : Fin size} {s : Store size}

theorem getElem_fresh {tapeLength : TapeLength} {k : Nat} (hk : k < tapeLength.cells) :
    (fresh tapeLength).cells[k] = 0 :=
  Vector.getElem_replicate hk

theorem cursor_fresh (tapeLength : TapeLength) : (fresh tapeLength).cursor = 0 :=
  rfl

theorem current_fresh (tapeLength : TapeLength) : (fresh tapeLength).current = 0 :=
  getElem_fresh tapeLength.positive

theorem getElem_add (s : Store size) (i : Fin size) (a : Int) {k : Nat} (hk : k < size) :
    (s.add i a).cells[k] = if i.val = k then s.cells[k] + a else s.cells[k] := by
  simp only [add, Vector.getElem_set]
  split
  · next h => simp only [h]
  · rfl

theorem add_zero (s : Store size) (i : Fin size) : s.add i 0 = s := by
  simp only [add, Int.add_zero, Vector.set_getElem_self]

theorem add_add (s : Store size) (i : Fin size) (a b : Int) : (s.add i a).add i b = s.add i (a + b) := by
  simp only [add, Vector.getElem_set_self, Vector.set_set, Int.add_assoc]

theorem add_comm (h : i ≠ j) (s : Store size) (a b : Int) :
    (s.add i a).add j b = (s.add j b).add i a := by
  have hne : i.val ≠ j.val := fun heq => h (Fin.ext heq)
  simp only [add, Vector.getElem_set_ne _ _ hne, Vector.getElem_set_ne _ _ (Ne.symm hne),
    Vector.set_comm _ _ hne]

theorem current_add_pointer (s : Store size) (a : Int) : (s.add s.pointer a).current = s.current + a :=
  (getElem_add s s.pointer a s.pointer.isLt).trans (if_pos rfl)

theorem current_add_of_ne (h : i ≠ s.pointer) (a : Int) : (s.add i a).current = s.current :=
  (getElem_add s i a s.pointer.isLt).trans (if_neg fun heq => h (Fin.ext heq))

theorem current_moveTo (s : Store size) (i : Fin size) : (s.moveTo i).current = s.cells[i.val] :=
  rfl

end Store

/-- Whatever the store, the command adds the amount to the current cell. -/
def Command.Adds (c : Command) (amount : Int) : Prop :=
  ∀ (size : Nat) (input : Array CodeUnit) (i : Nat) (s : Store size),
    s.perform input i c = .ok (s.add s.pointer amount)

theorem adds_increment : Command.increment.Adds 1 :=
  fun _ _ _ _ => rfl

theorem adds_decrement : Command.decrement.Adds (-1) :=
  fun _ _ _ _ => rfl

end Machine

namespace Structured.Block

open Machine (Command Store Overrun)

variable {size : Nat} {input : Array CodeUnit} {s t u : Store size} {a b body rest : Block}

/-- From a store a block has one result at most. -/
theorem Runs.unique {i : Nat} {r r' : Except Overrun (Store size)} (h : b.Runs input i s r)
    (h' : b.Runs input i s r') : r = r' := by
  induction h generalizing r' with
  | done =>
      cases h'
      rfl
  | command hs _ ih =>
      cases h' with
      | command hs' hrest' =>
          cases hs.symm.trans hs'
          exact ih hrest'
      | overrun hs' => cases hs.symm.trans hs'
  | overrun hs =>
      cases h' with
      | command hs' _ => cases hs.symm.trans hs'
      | overrun hs' =>
          cases hs.symm.trans hs'
          rfl
  | again _ hzero _ ihbody ihloop =>
      cases h' with
      | again hbody' _ hloop' =>
          cases ihbody hbody'
          exact ihloop hloop'
      | leave hbody' hzero' _ =>
          cases ihbody hbody'
          exact absurd hzero' hzero
      | fails hbody' => cases ihbody hbody'
  | leave _ hzero _ ihbody ihrest =>
      cases h' with
      | again hbody' hzero' _ =>
          cases ihbody hbody'
          exact absurd hzero hzero'
      | leave hbody' _ hrest' =>
          cases ihbody hbody'
          exact ihrest hrest'
      | fails hbody' => cases ihbody hbody'
  | fails _ ihbody =>
      cases h' with
      | again hbody' _ _ => cases ihbody hbody'
      | leave hbody' _ _ => cases ihbody hbody'
      | fails hbody' =>
          cases ihbody hbody'
          rfl

theorem Runs.append {i : Nat} {r r' : Except Overrun (Store size)}
    (ha : a.Runs input i s r) (hr : r = .ok t) (hb : b.Runs input (i + a.text.length) t r') :
    (a.append b).Runs input i s r' := by
  induction ha with
  | done =>
      cases hr
      exact hb
  | command hs _ ih =>
      rw [length_text_command] at hb
      exact .command hs (ih hr hb)
  | again hbody hzero _ _ ihloop => exact .again hbody hzero (ihloop hr hb)
  | leave hbody hzero _ _ ihrest =>
      rw [length_text_loop] at hb
      exact .leave hbody hzero (ihrest hr hb)
  | overrun | fails => cases hr

/-- What follows a block that has been carried out has the result of the whole. -/
theorem Runs.of_append {i : Nat} {r r' : Except Overrun (Store size)}
    (ha : a.Runs input i s r) (hr : r = .ok t) (h : (a.append b).Runs input i s r') :
    b.Runs input (i + a.text.length) t r' := by
  induction ha with
  | done =>
      cases hr
      exact h
  | command hs _ ih =>
      rw [length_text_command]
      cases h with
      | command hs' hrest' =>
          cases hs.symm.trans hs'
          exact ih hr hrest'
      | overrun hs' => cases hs.symm.trans hs'
  | again hbody hzero _ _ ihloop =>
      cases h with
      | again hbody' _ hloop' =>
          cases hbody.unique hbody'
          exact ihloop hr hloop'
      | leave hbody' hzero' _ =>
          cases hbody.unique hbody'
          exact absurd hzero' hzero
      | fails hbody' => cases hbody.unique hbody'
  | leave hbody hzero _ _ ihrest =>
      rw [length_text_loop]
      cases h with
      | again hbody' hzero' _ =>
          cases hbody.unique hbody'
          exact absurd hzero hzero'
      | leave hbody' _ hrest' =>
          cases hbody.unique hbody'
          exact ihrest hr hrest'
      | fails hbody' => cases hbody.unique hbody'
  | overrun | fails => cases hr

/-! ### Blocks that end -/

/-- Wherever the block stands, it takes the one store to the other. -/
def Takes (input : Array CodeUnit) (b : Block) (s t : Store size) : Prop :=
  ∀ i, b.Runs input i s (.ok t)

theorem Takes.append (ha : a.Takes input s t) (hb : b.Takes input t u) :
    (a.append b).Takes input s u :=
  fun i => (ha i).append rfl (hb (i + a.text.length))

theorem Takes.command {c : Command} (hs : ∀ i, s.perform input i c = .ok t)
    (hrest : rest.Takes input t u) : (command c rest).Takes input s u :=
  fun i => .command (hs i) (hrest (i + 1))

theorem takes_done (s : Store size) : done.Takes input s s :=
  fun _ => .done

/-- A loop goes through rounds up to the first one that leaves zero in the current cell. -/
theorem Takes.loop (round : Nat → Store size) {n : Nat}
    (hbody : ∀ m ≤ n, body.Takes input (round m) (round (m + 1)))
    (hcurrent : ∀ m < n, (round (m + 1)).current ≠ 0) (hlast : (round (n + 1)).current = 0) :
    (loop body done).Takes input (round 0) (round (n + 1)) := by
  intro i
  induction n generalizing round with
  | zero => exact .leave (hbody 0 (Nat.le_refl 0) (i + 1)) hlast .done
  | succ n ih =>
      have hfirst := hbody 0 (Nat.zero_le _) (i + 1)
      refine .again hfirst (hcurrent 0 (Nat.succ_pos n)) (ih (fun m => round (m + 1)) ?_ ?_ hlast)
      · intro m hm
        exact hbody (m + 1) (Nat.succ_le_succ hm)
      · intro m hm
        exact hcurrent (m + 1) (Nat.succ_lt_succ hm)

/-! ### Blocks that never end -/

/-- Wherever the block stands, it has no result from the store. -/
def Diverges (input : Array CodeUnit) (b : Block) (s : Store size) : Prop :=
  ∀ i r, ¬ b.Runs input i s r

theorem Takes.append_diverges (ha : a.Takes input s t) (hb : b.Diverges input t) :
    (a.append b).Diverges input s := by
  intro i r h
  exact hb _ r ((ha i).of_append rfl h)

/-- A loop goes on for ever if no round leaves zero in the current cell: from any result another one would
follow that came about before it. -/
theorem diverges_loop (round : Nat → Store size)
    (hbody : ∀ m, body.Takes input (round m) (round (m + 1)))
    (hcurrent : ∀ m, (round (m + 1)).current ≠ 0) (m : Nat) :
    (loop body rest).Diverges input (round m) := by
  intro i r h
  generalize hb : loop body rest = b at h
  generalize hs : round m = s at h
  induction h generalizing m with
  | done | command | overrun => cases hb
  | again hbody' _ _ _ ihloop =>
      cases hb
      subst hs
      cases (hbody m _).unique hbody'
      exact ihloop (m + 1) rfl rfl
  | leave hbody' hzero =>
      cases hb
      subst hs
      cases (hbody m _).unique hbody'
      exact hcurrent m hzero
  | fails hbody' =>
      cases hb
      subst hs
      cases (hbody m _).unique hbody'

/-! ### Commands in a row -/

/-- A command as often as a number says. -/
def repeated : Nat → Command → Block
  | 0, _ => done
  | n + 1, c => command c (repeated n c)

theorem text_repeated (n : Nat) (c : Command) :
    (repeated n c).text = List.replicate n (.ofChar c.instruction.symbol) := by
  induction n with
  | zero => rfl
  | succ n ih => rw [repeated, text, ih, List.replicate_succ]

theorem takes_repeated {c : Command} {amount : Int} (hc : c.Adds amount) (n : Nat) (s : Store size) :
    (repeated n c).Takes input s (s.add s.pointer (n * amount)) := by
  induction n generalizing s with
  | zero =>
      rw [Int.natCast_zero, Int.zero_mul, Store.add_zero]
      exact takes_done s
  | succ n ih =>
      have hadd : s.add s.pointer ((n + 1 : Nat) * amount) =
          (s.add s.pointer amount).add s.pointer (n * amount) := by
        rw [Store.add_add, Int.natCast_succ, Int.add_mul, Int.one_mul, Int.add_comm]
      rw [hadd]
      exact .command (fun i => hc size input i s) (ih (s.add s.pointer amount))

theorem takes_increments (n : Nat) (s : Store size) :
    (repeated n .increment).Takes input s (s.add s.pointer n) := by
  have h : (repeated n .increment).Takes input s (s.add s.pointer (n * 1)) :=
    takes_repeated Machine.adds_increment n s
  rwa [Int.mul_one] at h

theorem takes_moves (n : Nat) {target : Fin size} (h : target.val = s.pointer.val + n) :
    (repeated n .right).Takes input s (s.moveTo target) := by
  induction n generalizing s with
  | zero =>
      obtain rfl : target = s.pointer := Fin.ext h
      exact takes_done s
  | succ n ih =>
      have hnext : s.pointer.val + 1 < size := by omega
      have hrest : target.val = s.pointer.val + 1 + n := by omega
      have hmoves : (repeated n .right).Takes input (s.moveTo ⟨s.pointer.val + 1, hnext⟩)
          (s.moveTo target) :=
        ih hrest
      exact .command (fun _ => dif_pos hnext) hmoves

/-- Increments or decrements that add an integer to the current cell. -/
def tally (n : Int) : Block :=
  (repeated n.toNat .increment).append (repeated (-n).toNat .decrement)

theorem text_tally (n : Int) : (tally n).text = Text.tally n := by
  rw [tally, text_append, text_repeated, text_repeated]
  rfl

theorem takes_tally (n : Int) (s : Store size) : (tally n).Takes input s (s.add s.pointer n) := by
  have hup : (repeated n.toNat .increment).Takes input s (s.add s.pointer n.toNat) :=
    takes_increments n.toNat s
  have hdown : (repeated (-n).toNat .decrement).Takes input (s.add s.pointer n.toNat)
      ((s.add s.pointer n.toNat).add s.pointer ((-n).toNat * -1)) :=
    takes_repeated Machine.adds_decrement (-n).toNat (s.add s.pointer n.toNat)
  have hsum : (n.toNat : Int) + (-n).toNat * -1 = n := by omega
  rw [Store.add_add, hsum] at hdown
  exact hup.append hdown

end Structured.Block

namespace Script

open Structured

variable {b : Block} {input : Text} {tapeLength : TapeLength}

/-- A script that is a block returns the store to which the block takes the fresh one. -/
theorem runFresh_of_takes {s : Machine.Store tapeLength.cells}
    (h : b.Takes input.codeUnits.toArray (.fresh tapeLength) s) :
    ∃ steps, runFresh steps b.text input tapeLength = .ok (s.toState []) := by
  apply (runFresh_text_eq_ok_iff (.closed b)).mpr
  exact ⟨s, [], .closed (h 0), rfl⟩

theorem runFresh_of_diverges (h : b.Diverges input.codeUnits.toArray (.fresh tapeLength)) (steps : Nat) :
    runFresh steps b.text input tapeLength = .error .unfinished := by
  apply (runFresh_text_eq_unfinished_iff (.closed b)).mpr
  intro r hr
  cases hr with
  | closed hblock => exact h 0 _ hblock

end Script

end TapeMachine
