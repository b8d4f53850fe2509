import TapeMachine.Proofs.Effect

/-! Counting down to zero. A loop that changes the current cell by one amount in each round ends in the
round that brings the cell to zero, and there is none if the cell starts at zero or on the other side of
it: the loop is entered whatever the cell holds, and cells have no bounds, so the cell only moves away. -/

namespace TapeMachine

open Text (ofString)

namespace Machine

variable {code input : Text} {tapeLength : TapeLength}

/-- After any number of iterations the script has not failed and still stands before its end. -/
def NeverEnds (code input : Text) (tapeLength : TapeLength) : Prop :=
  ∀ n, ∃ c, runFrom n code input (.fresh tapeLength.cells) = .unfinished c ∧ c.position < code.length

/-- At its end a script would return in the next iteration. -/
theorem neverEnds_of_unfinished
    (h : ∀ n, Script.runFresh n code input tapeLength = .error .unfinished) :
    NeverEnds code input tapeLength := by
  intro n
  obtain ⟨c, hc⟩ := Script.runFresh_eq_unfinished_iff.mp (h n)
  obtain ⟨p, hp, rfl⟩ := visits_of_runFrom hc
  refine ⟨_, hc, ?_⟩
  by_contra hend
  have hlast := hp.runFrom_succ_of_length_le (Nat.le_of_not_lt hend)
  obtain ⟨c, hc⟩ := Script.runFresh_eq_unfinished_iff.mp (h (n + 1))
  rw [hlast] at hc
  cases hc

end Machine

namespace Structured.Block

open Machine (Command Store)

variable {size : Nat} {input : Array CodeUnit} {s : Store size} {c : Command} {amount : Int}

/-- A loop with one command in it. -/
def untilZero (c : Command) : Block :=
  loop (command c done) done

theorem takes_round (hc : c.Adds amount) (s : Store size) (rounds : Nat) :
    (command c done).Takes input (s.add s.pointer (rounds * amount))
      (s.add s.pointer ((rounds + 1 : Nat) * amount)) := by
  have hadd : s.add s.pointer ((rounds + 1 : Nat) * amount) =
      (s.add s.pointer (rounds * amount)).add s.pointer amount := by
    rw [Store.add_add, Int.natCast_succ, Int.add_mul, Int.one_mul]
  rw [hadd]
  exact .command (fun i => hc size input i (s.add s.pointer (rounds * amount))) (takes_done _)

/-- The loop ends with the first round that brings the cell to zero. -/
theorem takes_untilZero (hc : c.Adds amount) {k : Nat}
    (hbefore : ∀ m : Nat, m < k → s.current + (m + 1 : Nat) * amount ≠ 0)
    (hlast : s.current + (k + 1 : Nat) * amount = 0) :
    (untilZero c).Takes input s (s.add s.pointer ((k + 1 : Nat) * amount)) := by
  have hrounds : (untilZero c).Takes input (s.add s.pointer ((0 : Nat) * amount))
      (s.add s.pointer ((k + 1 : Nat) * amount)) := by
    refine .loop (fun m : Nat => s.add s.pointer (m * amount)) (fun m _ => takes_round hc s m) ?_ ?_
    · intro m hm
      rw [Store.current_add_pointer]
      exact hbefore m hm
    · rwa [Store.current_add_pointer]
  rwa [Int.natCast_zero, Int.zero_mul, Store.add_zero] at hrounds

/-- The loop goes on for ever if no round brings the cell to zero. -/
theorem diverges_untilZero (hc : c.Adds amount)
    (h : ∀ m : Nat, s.current + (m + 1 : Nat) * amount ≠ 0) : (untilZero c).Diverges input s := by
  have hrounds : (untilZero c).Diverges input (s.add s.pointer ((0 : Nat) * amount)) := by
    refine diverges_loop (fun m : Nat => s.add s.pointer (m * amount)) (takes_round hc s) ?_ 0
    intro m
    rw [Store.current_add_pointer]
    exact h m
  rwa [Int.natCast_zero, Int.zero_mul, Store.add_zero] at hrounds

end Structured.Block

namespace Script

open Machine Structured

variable {c : Command} {amount : Int} {n : Int} {k : Nat}

theorem current_tallied (n : Int) (tapeLength : TapeLength) :
    ((Store.fresh tapeLength).add (Store.fresh tapeLength).pointer n).current = n := by
  rw [Store.current_add_pointer, Store.current_fresh, Int.zero_add]

theorem runFresh_tally_untilZero (hc : c.Adds amount)
    (hbefore : ∀ m : Nat, m < k → n + (m + 1 : Nat) * amount ≠ 0)
    (hlast : n + (k + 1 : Nat) * amount = 0) (input : Text) (tapeLength : TapeLength) :
    ∃ steps, runFresh steps ((Block.tally n).append (Block.untilZero c)).text input tapeLength =
      .ok (.fresh tapeLength.cells) := by
  let start := Store.fresh tapeLength
  have hcurrent : (start.add start.pointer n).current = n := current_tallied n tapeLength
  have hloop : (Block.untilZero c).Takes input.codeUnits.toArray (start.add start.pointer n)
      ((start.add start.pointer n).add start.pointer ((k + 1 : Nat) * amount)) :=
    Block.takes_untilZero hc (by rwa [hcurrent]) (by rwa [hcurrent])
  rw [Store.add_add, hlast, Store.add_zero] at hloop
  rw [← Store.toState_fresh]
  exact runFresh_of_takes ((Block.takes_tally n start).append hloop)

theorem neverEnds_tally_untilZero (hc : c.Adds amount)
    (h : ∀ m : Nat, n + (m + 1 : Nat) * amount ≠ 0) (input : Text) (tapeLength : TapeLength) :
    NeverEnds ((Block.tally n).append (Block.untilZero c)).text input tapeLength := by
  apply neverEnds_of_unfinished
  apply runFresh_of_diverges
  apply (Block.takes_tally n (Store.fresh tapeLength)).append_diverges
  apply Block.diverges_untilZero hc
  rwa [current_tallied]

theorem text_tally_untilZero (n : Int) (c : Command) :
    ((Block.tally n).append (Block.untilZero c)).text =
      Text.tally n ++ [.ofChar '[', .ofChar c.instruction.symbol, .ofChar ']'] := by
  rw [Block.text_append, Block.text_tally]
  rfl

/-- Counting down ends on a positive cell only, and counting up on a negative one only. Where it ends, the
machine is in the state in which it began; otherwise the script goes on for ever without a failure, also
from a cell that is zero already. -/
theorem runFresh_clearing (n : Int) (input : Text) (tapeLength : TapeLength) :
    (1 ≤ n → ∃ steps, runFresh steps (Text.tally n ++ ofString "[-]") input tapeLength =
      .ok (.fresh tapeLength.cells)) ∧
    (n ≤ 0 → NeverEnds (Text.tally n ++ ofString "[-]") input tapeLength) ∧
    (n ≤ -1 → ∃ steps, runFresh steps (Text.tally n ++ ofString "[+]") input tapeLength =
      .ok (.fresh tapeLength.cells)) ∧
    (0 ≤ n → NeverEnds (Text.tally n ++ ofString "[+]") input tapeLength) := by
  have hdown : Text.tally n ++ ofString "[-]" =
      ((Block.tally n).append (Block.untilZero .decrement)).text :=
    (text_tally_untilZero n .decrement).symm
  have hup : Text.tally n ++ ofString "[+]" =
      ((Block.tally n).append (Block.untilZero .increment)).text :=
    (text_tally_untilZero n .increment).symm
  rw [hdown, hup]
  refine ⟨fun h => ?_, fun h => ?_, fun h => ?_, fun h => ?_⟩
  · refine runFresh_tally_untilZero adds_decrement (k := n.toNat - 1) ?_ ?_ input tapeLength
    · intro m hm
      omega
    · omega
  · refine neverEnds_tally_untilZero adds_decrement ?_ input tapeLength
    intro m
    omega
  · refine runFresh_tally_untilZero adds_increment (k := (-n).toNat - 1) ?_ ?_ input tapeLength
    · intro m hm
      omega
    · omega
  · refine neverEnds_tally_untilZero adds_increment ?_ input tapeLength
    intro m
    omega

/-- Counting down ends from two, and not from a cell that is zero already. -/
theorem runFresh_clearing_two_zero :
    (1 : Int) ≤ 2 ∧ (0 : Int) ≤ 0 ∧
      (∃ steps, runFresh steps (ofString "++[-]") [] ⟨1, by decide⟩ = .ok ⟨#[0], 0, 0, [], #[]⟩) ∧
      NeverEnds (ofString "[-]") [] ⟨1, by decide⟩ := by
  have htwo : (1 : Int) ≤ 2 := by decide
  have hzero : (0 : Int) ≤ 0 := by decide
  exact ⟨htwo, hzero, (runFresh_clearing 2 [] ⟨1, by decide⟩).1 htwo,
    (runFresh_clearing 0 [] ⟨1, by decide⟩).2.1 hzero⟩

end Script

end TapeMachine
