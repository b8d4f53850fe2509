import Mathlib.Data.List.GetD
import TapeMachine.Proofs.Output

/-! Printing anything. A script that counts to an integer in each cell and prints it prints any units, since
cells hold any integer and a unit is what an integer leaves modulo `0x10000`. So each text without a split
pair is the output of some script, and no other text is. -/

namespace TapeMachine

open Text (ofString)

/-- For each integer, counting to it, printing it, and moving on to the next cell. -/
def Text.listing (ns : List Int) : Text :=
  ns.flatMap fun n => Text.tally n ++ ofString ".>"

namespace Machine.Store

variable {size : Nat}

/-- Integers stand in the first cells and have been printed, and the pointer is behind them. -/
def row (ns : List Int) (h : ns.length < size) : Store size where
  cells := Vector.ofFn fun i => ns.getD i.val 0
  pointer := ⟨ns.length, h⟩
  cursor := 0
  printed := (ns.map CodeUnit.ofInt).toArray

theorem row_nil (tapeLength : TapeLength) : row [] tapeLength.positive = fresh tapeLength := by
  have hcells : (Vector.ofFn fun i : Fin tapeLength.cells => ([] : List Int).getD i.val 0) =
      Vector.replicate tapeLength.cells 0 := by
    apply Vector.ext
    intro k hk
    rw [Vector.getElem_ofFn, Vector.getElem_replicate, List.getD_nil]
  rw [row, hcells]
  rfl

variable {ns : List Int} {n : Int} {h : ns.length < size}

theorem getElem_row {k : Nat} (hk : k < size) : (row ns h).cells[k] = ns.getD k 0 :=
  Vector.getElem_ofFn hk

theorem current_row : (row ns h).current = 0 := by
  show (row ns h).cells[ns.length] = 0
  rw [getElem_row, List.getD_eq_default _ _ (Nat.le_refl _)]

/-- Counting in the cell behind a row makes the row longer. -/
theorem cells_row_add :
    ((row ns h).add (row ns h).pointer n).cells = Vector.ofFn fun i => (ns ++ [n]).getD i.val 0 := by
  apply Vector.ext
  intro k hk
  rw [getElem_add, getElem_row, Vector.getElem_ofFn]
  show (if ns.length = k then _ else _) = _
  rcases Nat.lt_trichotomy k ns.length with hlt | rfl | hgt
  · rw [if_neg (Nat.ne_of_gt hlt), List.getD_append _ _ _ _ hlt]
  · rw [if_pos rfl, List.getD_append_right _ _ _ _ (Nat.le_refl _), Nat.sub_self,
      List.getD_eq_default _ _ (Nat.le_refl _), Int.zero_add]
    rfl
  · rw [if_neg (Nat.ne_of_lt hgt), List.getD_eq_default _ _ (Nat.le_of_lt hgt), List.getD_eq_default]
    rw [List.length_append]
    exact hgt

theorem perform_right_row (hnext : (ns ++ [n]).length < size) (input : Array CodeUnit) (i : Nat) :
    ((row ns h).add (row ns h).pointer n).printing.perform input i .right = .ok (row (ns ++ [n]) hnext) := by
  have hlength : ns.length + 1 < size := by rwa [List.length_append] at hnext
  have hcurrent : ((row ns h).add (row ns h).pointer n).current = n := by
    rw [current_add_pointer, current_row, Int.zero_add]
  have hright : ((row ns h).add (row ns h).pointer n).printing.perform input i .right =
      .ok { ((row ns h).add (row ns h).pointer n).printing with pointer := ⟨ns.length + 1, hlength⟩ } :=
    dif_pos hlength
  have hrow : { ((row ns h).add (row ns h).pointer n).printing with pointer := ⟨ns.length + 1, hlength⟩ } =
      row (ns ++ [n]) hnext := by
    simp only [printing, hcurrent, cells_row_add]
    simp [row, add]
  rw [hright, hrow]

end Machine.Store

namespace Structured.Block

open Machine (Store)

variable {size : Nat} {input : Array CodeUnit}

/-- An integer is counted to and printed, and the pointer moved on. -/
def entry (n : Int) : Block :=
  (tally n).append (command .print (command .right done))

def listing : List Int → Block
  | [] => done
  | n :: ns => (entry n).append (listing ns)

theorem text_listing (ns : List Int) : (listing ns).text = Text.listing ns := by
  induction ns with
  | nil => rfl
  | cons n ns ih =>
      rw [listing, entry, text_append, text_append, text_tally, ih]
      rfl

theorem takes_entry {ns : List Int} {n : Int} (h : (ns ++ [n]).length < size) (hfront : ns.length < size) :
    (entry n).Takes input (.row ns hfront) (.row (ns ++ [n]) h) := by
  have hprint := ((Store.row ns hfront).add (Store.row ns hfront).pointer n).perform_print input
  exact (takes_tally n (Store.row ns hfront)).append
    (.command hprint (.command (Store.perform_right_row h input) (takes_done _)))

theorem takes_listing (ns : List Int) {front : List Int} (h : (front ++ ns).length < size)
    (hfront : front.length < size) :
    (listing ns).Takes input (.row front hfront) (.row (front ++ ns) h) := by
  induction ns generalizing front with
  | nil =>
      simp only [List.append_nil]
      exact takes_done _
  | cons n ns ih =>
      have hlength : (front ++ [n] ++ ns).length < size := by
        rwa [List.append_assoc, List.singleton_append]
      have hentry : (front ++ [n]).length < size := by
        rw [List.length_append] at hlength
        exact Nat.lt_of_le_of_lt (Nat.le_add_right _ _) hlength
      have hrest := ih hlength hentry
      simp only [List.append_assoc, List.singleton_append] at hrest
      exact (takes_entry hentry hfront).append hrest

end Structured.Block

namespace Script

open Machine Structured

variable {ns : List Int} {tapeLength : TapeLength}

theorem toState_row (h : ns.length < tapeLength.cells) :
    (Store.row ns h).toState [] = {
      tape := Array.ofFn fun i : Fin tapeLength.cells => ns.getD i.val 0
      pointer := ns.length
      cursor := 0
      openLoops := []
      output := (ns.map fun n => [.ofNat (n % 0x10000).toNat]).toArray } := by
  simp only [Store.toState, Store.row, Vector.toArray_ofFn, List.map_toArray, List.map_map,
    Function.comp_def, CodeUnit.toCodePoint_eq_ofNat, CodeUnit.ofInt, Int.natCast_zero]

theorem takes_listing_fresh (input : Array CodeUnit) (h : ns.length < tapeLength.cells) :
    (Block.listing ns).Takes input (.fresh tapeLength) (.row ns h) := by
  rw [← Store.row_nil]
  exact Block.takes_listing ns h tapeLength.positive

/-- A script that counts to integers in one cell after the other leaves them on the tape, whatever their
size and sign, and prints what they are modulo `0x10000`. So each text without a split pair is the output
of a script without input, and a text with one is the output of no script, whatever the input and the tape. -/
theorem runFresh_listing :
    (∀ (ns : List Int) (input : Text) (tapeLength : TapeLength), ns.length + 1 ≤ tapeLength.cells →
      ∃ steps, runFresh steps (Text.listing ns) input tapeLength = .ok {
        tape := Array.ofFn fun i : Fin tapeLength.cells => ns.getD i.val 0
        pointer := ns.length
        cursor := 0
        openLoops := []
        output := (ns.map fun n => [.ofNat (n % 0x10000).toNat]).toArray }) ∧
    (∀ t : Text, t.NoSplitPair →
      ∃ code tapeLength steps, outputFresh steps code [] tapeLength = .ok t) ∧
    ∀ t : Text, ¬ t.NoSplitPair →
      ∀ steps code input tapeLength, outputFresh steps code input tapeLength ≠ .ok t := by
  refine ⟨?integers, ?printable, ?unprintable⟩
  case integers =>
    intro ns input tapeLength h
    obtain ⟨steps, hsteps⟩ := runFresh_of_takes (takes_listing_fresh input.codeUnits.toArray h)
    rw [Block.text_listing, toState_row] at hsteps
    exact ⟨steps, hsteps⟩
  case printable =>
    intro t ht
    let ns : List Int := t.codeUnits.map fun u => u.val
    let tapeLength : TapeLength := ⟨ns.length + 1, Nat.succ_pos _⟩
    have htakes : (Block.listing ns).Takes (Text.codeUnits []).toArray (.fresh tapeLength)
        (.row ns (Nat.lt_succ_self _)) :=
      takes_listing_fresh _ _
    have hprinted : (Store.row ns (Nat.lt_succ_self _)).printed.toList = t.codeUnits := by
      show (t.codeUnits.map fun u => (u.val : Int)).map CodeUnit.ofInt = t.codeUnits
      rw [List.map_map]
      exact (List.map_congr_left fun u _ => u.ofInt_val).trans (List.map_id _)
    obtain ⟨steps, hsteps⟩ := outputFresh_of_takes htakes
    rw [hprinted] at hsteps
    exact ⟨_, _, steps, hsteps.trans (congrArg Except.ok (Text.joinPairs_eq_self ht))⟩
  case unprintable =>
    intro t ht steps code input tapeLength h
    exact ht (noSplitPair_of_outputFresh h)

/-- The letter A, and the unit that is printed for a cell below zero. -/
theorem runFresh_listing_below_zero :
    [65, -1].length + 1 ≤ 3 ∧
      ∃ steps, runFresh steps (Text.listing [65, -1]) [] ⟨3, by decide⟩ =
        .ok ⟨#[65, -1, 0], 2, 0, [], #[[.ofChar 'A'], [.ofNat 0xFFFF]]⟩ := by
  have hlength : [65, -1].length + 1 ≤ 3 := by decide
  exact ⟨hlength, runFresh_listing.1 [65, -1] [] ⟨3, by decide⟩ hlength⟩

end Script

end TapeMachine
