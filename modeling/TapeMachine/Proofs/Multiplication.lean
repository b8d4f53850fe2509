import Mathlib.Algebra.GroupWithZero.Nat
import TapeMachine.Proofs.Effect

/-! Counting loops. A loop that adds an amount to a cell and counts the current cell down adds the amount
as often as the cell says, so loops within loops multiply: to any depth, with the stack of open loops as
deep, and without a bound on the numbers. -/

namespace TapeMachine

open Text (ofString)

/-- For each count a loop that counts it down, each within the one before, one cell further on, and in the
innermost one increments. -/
def Text.multiplication : List Nat → Nat → Text
  | [], c => List.replicate c (.ofChar '+')
  | a :: as, c =>
    List.replicate a (.ofChar '+') ++ ofString "[>" ++ Text.multiplication as c ++ ofString "<-]"

namespace Machine.Store

/-! ### Counting -/

variable {size : Nat}

/-- The cells from a first one up to another are zero; the other need not be. -/
def ZeroBetween (first last : Nat) (s : Store size) : Prop :=
  ∀ (k : Nat) (hk : k < size), first ≤ k → k < last → s.cells[k] = 0

variable {i : Fin size} {s : Store size} {first last : Nat}

theorem ZeroBetween.add (h : s.ZeroBetween first last) (hi : i.val < first ∨ last ≤ i.val) (a : Int) :
    (s.add i a).ZeroBetween first last := by
  intro k hk hfirst hlast
  rw [getElem_add, if_neg (by omega)]
  exact h k hk hfirst hlast

/-- The store in which a count has been written to the current cell and some rounds have been made with it,
each of which adds an amount to another cell and counts the current one down. -/
def counting (s : Store size) (target : Fin size) (amount : Int) (count rounds : Nat) : Store size :=
  (s.add target (rounds * amount)).add s.pointer (count - rounds)

section Counting

variable {target : Fin size} (amount : Int) (count : Nat)

theorem counting_zero (s : Store size) (target : Fin size) :
    s.counting target amount count 0 = s.add s.pointer count := by
  rw [counting, Int.natCast_zero, Int.zero_mul, Int.sub_zero, add_zero]

theorem counting_self (s : Store size) (target : Fin size) :
    s.counting target amount count count = s.add target (count * amount) := by
  rw [counting, Int.sub_self, add_zero]

theorem counting_succ (h : target ≠ s.pointer) (rounds : Nat) :
    s.counting target amount count (rounds + 1) =
      ((s.counting target amount count rounds).add target amount).add s.pointer (-1) := by
  have hsum : ((rounds + 1 : Nat) : Int) * amount = rounds * amount + amount := by
    rw [Int.natCast_succ, Int.add_mul, Int.one_mul]
  have hleft : (count : Int) - (rounds + 1 : Nat) = count - rounds + -1 := by omega
  calc s.counting target amount count (rounds + 1)
      = (s.add target (rounds * amount + amount)).add s.pointer (count - rounds + -1) := by
        rw [counting, hsum, hleft]
    _ = (((s.add target (rounds * amount)).add target amount).add s.pointer (count - rounds)).add
          s.pointer (-1) := by
        rw [add_add, add_add]
    _ = ((s.counting target amount count rounds).add target amount).add s.pointer (-1) := by
        rw [add_comm h, counting]

theorem current_counting (h : target ≠ s.pointer) (rounds : Nat) :
    (s.counting target amount count rounds).current = s.current + (count - rounds) := by
  rw [counting, ← current_add_of_ne h (rounds * amount)]
  exact current_add_pointer (s.add target (rounds * amount)) (count - rounds)

end Counting

end Machine.Store

namespace Structured.Block

open Machine (Store)

variable {size : Nat} {input : Array CodeUnit} {s : Store size}

/-! ### Loops within loops -/

/-- A block one cell further on, and the count one less. -/
def countedRound (inner : Block) : Block :=
  command .right (inner.append (command .left (command .decrement done)))

/-- A loop that makes as many rounds as a count says. -/
def countingLoop (count : Nat) (inner : Block) : Block :=
  (repeated count .increment).append (loop (countedRound inner) done)

theorem takes_countedRound {inner : Block} {target : Fin size} {amount : Int}
    (hnext : s.pointer.val + 1 < size)
    (hinner : inner.Takes input (s.moveTo ⟨s.pointer.val + 1, hnext⟩)
      ((s.moveTo ⟨s.pointer.val + 1, hnext⟩).add target amount)) :
    (countedRound inner).Takes input s ((s.add target amount).add s.pointer (-1)) := by
  have hforth (i : Nat) : s.perform input i .right = .ok (s.moveTo ⟨s.pointer.val + 1, hnext⟩) :=
    dif_pos hnext
  have hback (i : Nat) : ((s.moveTo ⟨s.pointer.val + 1, hnext⟩).add target amount).perform input i .left =
      .ok (s.add target amount) := by
    rw [Store.perform]
    exact if_pos (Nat.succ_pos s.pointer.val)
  have hdown (i : Nat) : (s.add target amount).perform input i .decrement =
      .ok ((s.add target amount).add s.pointer (-1)) :=
    rfl
  exact .command hforth (hinner.append (.command hback (.command hdown (takes_done _))))

theorem takes_countingLoop {inner : Block} {target : Fin size} {amount : Int} {count : Nat}
    (hcount : 1 ≤ count) (hnext : s.pointer.val + 1 < size) (hne : target ≠ s.pointer)
    (hzero : s.current = 0)
    (hinner : ∀ rounds, inner.Takes input
      ((s.counting target amount count rounds).moveTo ⟨s.pointer.val + 1, hnext⟩)
      (((s.counting target amount count rounds).moveTo ⟨s.pointer.val + 1, hnext⟩).add target amount)) :
    (countingLoop count inner).Takes input s (s.add target (count * amount)) := by
  obtain ⟨n, rfl⟩ : ∃ n, count = n + 1 := ⟨count - 1, (Nat.sub_add_cancel hcount).symm⟩
  have hcurrent (rounds : Nat) :
      (s.counting target amount (n + 1) rounds).current = ((n + 1 : Nat) : Int) - rounds := by
    rw [Store.current_counting amount (n + 1) hne, hzero, Int.zero_add]
  have hround (m : Nat) : (countedRound inner).Takes input (s.counting target amount (n + 1) m)
      (s.counting target amount (n + 1) (m + 1)) := by
    rw [Store.counting_succ amount (n + 1) hne]
    exact takes_countedRound (s := s.counting target amount (n + 1) m) hnext (hinner m)
  have hrounds : (loop (countedRound inner) done).Takes input (s.counting target amount (n + 1) 0)
      (s.counting target amount (n + 1) (n + 1)) := by
    refine .loop (s.counting target amount (n + 1)) (fun m _ => hround m) ?_ ?_
    · intro m hm
      rw [hcurrent]
      omega
    · rw [hcurrent, Int.sub_self]
  rw [Store.counting_zero, Store.counting_self] at hrounds
  exact (takes_increments (n + 1) s).append hrounds

/-- For each count a counting loop, each within the one before, and increments in the innermost one. -/
def multiplication : List Nat → Nat → Block
  | [], c => repeated c .increment
  | a :: as, c => countingLoop a (multiplication as c)

/-- The product is added to the cell that is as many cells further on as there are loops. -/
theorem takes_multiplication {as : List Nat} (c : Nat) (has : ∀ a ∈ as, 1 ≤ a) {target : Fin size}
    (htarget : target.val = s.pointer.val + as.length)
    (hzero : s.ZeroBetween s.pointer.val target.val) :
    (multiplication as c).Takes input s (s.add target (c * as.prod : Nat)) := by
  induction as generalizing s with
  | nil =>
      obtain rfl : target = s.pointer := Fin.ext htarget
      rw [List.prod_nil, Nat.mul_one]
      exact takes_increments c s
  | cons a as ih =>
      rw [List.length_cons] at htarget
      have hlt : s.pointer.val < target.val := by omega
      have hnext : s.pointer.val + 1 < size := by omega
      have hne : target ≠ s.pointer := fun heq => Nat.ne_of_gt hlt (congrArg Fin.val heq)
      have hcurrent : s.current = 0 := hzero s.pointer.val s.pointer.isLt (Nat.le_refl _) hlt
      have hrest : ∀ b ∈ as, 1 ≤ b := fun b hb => has b (List.mem_cons_of_mem a hb)
      have hprod : ((c * (a :: as).prod : Nat) : Int) = a * (c * as.prod : Nat) := by
        rw [List.prod_cons, ← Int.natCast_mul, Nat.mul_left_comm]
      rw [hprod]
      refine takes_countingLoop (has a (List.mem_cons_self ..)) hnext hne hcurrent fun rounds => ?_
      have hbehind : s.ZeroBetween (s.pointer.val + 1) target.val := fun k hk hfirst =>
        hzero k hk (Nat.le_of_succ_le hfirst)
      have hcells := (hbehind.add (.inr (Nat.le_refl _)) (rounds * (c * as.prod : Nat))).add
        (.inl (Nat.lt_succ_self s.pointer.val)) (a - rounds)
      have hnested : target.val = s.pointer.val + 1 + as.length := by omega
      exact ih hrest hnested hcells

theorem text_multiplication (as : List Nat) (c : Nat) :
    (multiplication as c).text = Text.multiplication as c := by
  induction as with
  | nil => exact text_repeated c .increment
  | cons a as ih =>
      rw [multiplication, countingLoop, countedRound, text_append, text_repeated, Text.multiplication, ← ih]
      simp only [text, text_append, List.append_assoc, List.cons_append]
      rfl

/-- The product, moves to its cell, and the command that prints it. -/
def printedProduct (as : List Nat) (c : Nat) : Block :=
  (multiplication as c).append ((repeated as.length .right).append (command .print done))

theorem takes_printedProduct {as : List Nat} (c : Nat) (has : ∀ a ∈ as, 1 ≤ a) {target : Fin size}
    (htarget : target.val = s.pointer.val + as.length)
    (hzero : s.ZeroBetween s.pointer.val (target.val + 1)) :
    (printedProduct as c).Takes input s
      ⟨(s.add target (c * as.prod : Nat)).cells, target, s.cursor,
        s.printed.push (.ofInt (c * as.prod : Nat))⟩ := by
  have hbefore : s.ZeroBetween s.pointer.val target.val := fun k hk hfirst hlast =>
    hzero k hk hfirst (Nat.lt_succ_of_lt hlast)
  have hvalue : ((s.add target (c * as.prod : Nat)).moveTo target).current = (c * as.prod : Nat) := by
    rw [Store.current_moveTo, Store.getElem_add, if_pos rfl,
      hzero target.val target.isLt (htarget ▸ Nat.le_add_right ..) (Nat.lt_succ_self _), Int.zero_add]
  have hmove : (repeated as.length .right).Takes input (s.add target (c * as.prod : Nat))
      ((s.add target (c * as.prod : Nat)).moveTo target) :=
    takes_moves as.length htarget
  have hprint : (command .print done).Takes input ((s.add target (c * as.prod : Nat)).moveTo target)
      ⟨(s.add target (c * as.prod : Nat)).cells, target, s.cursor,
        s.printed.push (.ofInt (c * as.prod : Nat))⟩ := by
    refine .command (fun i => ?_) (takes_done _)
    rw [Store.perform, hvalue]
    rfl
  exact (takes_multiplication c has htarget hbefore).append (hmove.append hprint)

theorem text_printedProduct (as : List Nat) (c : Nat) :
    (printedProduct as c).text =
      Text.multiplication as c ++ List.replicate as.length (.ofChar '>') ++ ofString "." := by
  rw [printedProduct, text_append, text_append, text_multiplication, text_repeated, List.append_assoc]
  rfl

end Structured.Block

namespace Script

open Machine Structured

theorem toState_product (tapeLength : TapeLength) {k : Nat} (hk : k < tapeLength.cells) (value : Nat) :
    (⟨((Store.fresh tapeLength).add ⟨k, hk⟩ value).cells, ⟨k, hk⟩, 0, #[.ofInt value]⟩ :
        Store tapeLength.cells).toState [] =
      { tape := Array.ofFn fun i : Fin tapeLength.cells => if i.val = k then (value : Int) else 0
        pointer := k
        cursor := 0
        openLoops := []
        output := #[[.ofNat (value % 0x10000)]] } := by
  have htape : ((Store.fresh tapeLength).add ⟨k, hk⟩ value).cells.toArray =
      Array.ofFn fun i : Fin tapeLength.cells => if i.val = k then (value : Int) else 0 := by
    apply Array.ext
    · simp
    · intro i hi hi'
      have hcells : i < tapeLength.cells := by rwa [Array.size_ofFn] at hi'
      rw [Vector.getElem_toArray, Store.getElem_add, Store.getElem_fresh hcells, Int.zero_add,
        Array.getElem_ofFn]
      simp only [eq_comm]
  have hunit : (CodeUnit.ofInt value).toCodePoint = .ofNat (value % 0x10000) := by
    rw [CodePoint.ext_iff, CodePoint.val_ofNat (by omega)]
    exact Int.toNat_natCast (value % 0x10000)
  simp only [Store.toState, htape, List.map_toArray, List.map_cons, List.map_nil, hunit, Int.natCast_zero]

/-- Loops within loops multiply. On any tape that has a cell for each of them and one more, the last of
these cells ends with the product of the counts and the increments, however great it is, the others end
with zero, and what is printed is the product as one unit. -/
theorem runFresh_multiplication (as : List Nat) (c : Nat) (input : Text) (tapeLength : TapeLength)
    (has : ∀ a ∈ as, 1 ≤ a) (hlength : as.length + 1 ≤ tapeLength.cells) :
    ∃ steps, runFresh steps (Text.multiplication as c ++ List.replicate as.length (.ofChar '>') ++
        ofString ".") input tapeLength = .ok {
      tape := Array.ofFn fun i : Fin tapeLength.cells =>
        if i.val = as.length then (c * as.prod : Nat) else 0
      pointer := as.length
      cursor := 0
      openLoops := []
      output := #[[.ofNat (c * as.prod % 0x10000)]] } := by
  have hlast : as.length < tapeLength.cells := hlength
  have hzero : (Store.fresh tapeLength).ZeroBetween 0 (as.length + 1) := fun _ hk _ _ =>
    Store.getElem_fresh hk
  have htakes : (Block.printedProduct as c).Takes input.codeUnits.toArray (.fresh tapeLength)
      ⟨((Store.fresh tapeLength).add ⟨as.length, hlast⟩ (c * as.prod : Nat)).cells,
        ⟨as.length, hlast⟩, 0, #[.ofInt (c * as.prod : Nat)]⟩ :=
    Block.takes_printedProduct c has (Nat.zero_add _).symm hzero
  rw [← Block.text_printedProduct, ← toState_product tapeLength hlast]
  apply (runFresh_text_eq_ok_iff (.closed (Block.printedProduct as c))).mpr
  exact ⟨_, _, .closed (htakes 0), rfl⟩

/-- The product of four sixteens stands in its cell as it is, and is printed as the unit zero. -/
theorem runFresh_multiplication_sixteens :
    (∀ a ∈ [16, 16, 16], 1 ≤ a) ∧ [16, 16, 16].length + 1 ≤ 4 ∧
      ∃ steps, runFresh steps
          (ofString "++++++++++++++++[>++++++++++++++++[>++++++++++++++++[>++++++++++++++++<-]<-]<-]>>>.")
          [] ⟨4, by decide⟩ =
        .ok ⟨#[0, 0, 0, 65536], 3, 0, [], #[[.ofNat 0]]⟩ := by
  have hcounts : ∀ a ∈ [16, 16, 16], 1 ≤ a := by decide
  have hlength : [16, 16, 16].length + 1 ≤ 4 := by decide
  exact ⟨hcounts, hlength, runFresh_multiplication [16, 16, 16] 16 [] ⟨4, by decide⟩ hcounts hlength⟩

end Script

end TapeMachine
