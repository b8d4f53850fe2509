import TapeMachine.Proofs.InputUnits
import TapeMachine.Proofs.Output

/-! Copying the input. Reading a unit and printing it copies as many units as it is done, zeros behind the
last one included. In a loop it copies up to the first zero, of which the first unit of the input is
excepted, because the loop is entered whatever has been read. What is printed is the input again, with its
surrogates joined where they stand as a pair. -/

namespace TapeMachine

open Text (ofString)

namespace Text

/-- The script that reads a unit and prints it, as often as a number says. -/
def copying (n : Nat) : Text :=
  (List.replicate n (ofString ",.")).flatten

/-- The first units of a text, which goes on with zeros. -/
def firstUnits (t : Text) (n : Nat) : List CodeUnit :=
  (List.range n).map fun i => .ofInt (t.unitAt i)

variable {t : Text} {i n : Nat}

theorem val_ofInt_unitAt (t : Text) (i : Nat) : (CodeUnit.ofInt (t.unitAt i)).val = t.unitAt i :=
  CodeUnit.val_ofInt_of_lt (t.unitAt_lt i)

theorem firstUnits_succ (t : Text) (n : Nat) :
    t.firstUnits (n + 1) = t.firstUnits n ++ [.ofInt (t.unitAt n)] := by
  rw [firstUnits, List.range_succ, List.map_append, firstUnits, List.map_singleton]

theorem map_val_firstUnits (t : Text) (n : Nat) :
    (t.firstUnits n).map CodeUnit.val = (List.range n).map t.unitAt := by
  rw [firstUnits, List.map_map]
  apply List.map_congr_left
  intro i _
  exact t.val_ofInt_unitAt i

theorem firstUnits_length (t : Text) : t.firstUnits t.codeUnits.length = t.codeUnits := by
  apply List.ext_getElem
  · rw [firstUnits, List.length_map, List.length_range]
  · intro i hi hi'
    rw [CodeUnit.ext_iff, ← unitAt_of_lt hi', ← t.val_ofInt_unitAt i]
    simp only [firstUnits, List.getElem_map, List.getElem_range]

theorem length_codeUnits_pos (ht : t ≠ []) : 0 < t.codeUnits.length := by
  obtain ⟨c, rest, rfl⟩ := List.exists_cons_of_ne_nil ht
  rw [codeUnits_cons, List.length_append]
  rcases c.codeUnits_cases with ⟨v, hv, _⟩ | ⟨high, low, hunits, _⟩
  · rw [hv, List.length_singleton]
    omega
  · rw [hunits, List.length_cons]
    omega

/-- Only the code point zero has a zero among its units. -/
theorem val_ne_zero_of_mem_codeUnits {c : CodePoint} {u : CodeUnit} (hc : c ≠ null)
    (hu : u ∈ c.codeUnits) : u.val ≠ 0 := by
  rcases c.codeUnits_cases with ⟨v, hv, rfl⟩ | ⟨high, low, hunits, hpair⟩
  · rw [hv, List.mem_singleton] at hu
    subst hu
    intro hzero
    exact hc (CodePoint.ext hzero)
  · obtain ⟨hhigh, hlow, _⟩ := CodeUnit.bounds_of_pair? hpair
    rw [CodePoint.isHighSurrogate_iff] at hhigh
    rw [CodePoint.isLowSurrogate_iff] at hlow
    rw [hunits, List.mem_pair] at hu
    simp only [CodeUnit.toCodePoint] at hhigh hlow
    rcases hu with rfl | rfl <;> omega

theorem unitAt_ne_zero (ht : null ∉ t) (hi : i < t.codeUnits.length) : t.unitAt i ≠ 0 := by
  rw [unitAt_of_lt hi]
  obtain ⟨c, hc, hu⟩ := List.mem_flatMap.mp (List.getElem_mem hi)
  exact val_ne_zero_of_mem_codeUnits (fun heq => ht (heq ▸ hc)) hu

end Text

namespace Machine.Store

/-! ### Units one by one -/

variable {size : Nat}

/-- The store after the next unit of a text has been read. -/
def reading (t : Text) (s : Store size) : Store size :=
  { s.write (t.unitAt s.cursor) with cursor := s.cursor + 1 }

/-- The store after a number of units of a text have been read and printed one by one. -/
def copied (t : Text) (s : Store size) : Nat → Store size
  | 0 => s
  | n + 1 => ((s.copied t n).reading t).printing

variable (t : Text) (s : Store size) (n : Nat)

@[simp] theorem cells_reading : (s.reading t).cells = (s.write (t.unitAt s.cursor)).cells :=
  rfl

@[simp] theorem pointer_reading : (s.reading t).pointer = s.pointer :=
  rfl

@[simp] theorem cursor_reading : (s.reading t).cursor = s.cursor + 1 :=
  rfl

@[simp] theorem printed_reading : (s.reading t).printed = s.printed :=
  rfl

theorem perform_read (i : Nat) : s.perform t.codeUnits.toArray i .read = .ok (s.reading t) := by
  rw [perform, nextUnit_eq_unitAt, reading]

theorem current_write (value : Int) : (s.write value).current = value := by
  show (s.cells.set s.pointer.val value s.pointer.isLt)[s.pointer.val] = value
  rw [Vector.getElem_set_self]

theorem write_current : s.write s.current = s := by
  show { s with cells := s.cells.set s.pointer.val s.cells[s.pointer.val] s.pointer.isLt } = s
  rw [Vector.set_getElem_self]

theorem current_reading : (s.reading t).current = t.unitAt s.cursor :=
  s.current_write (t.unitAt s.cursor)

theorem pointer_copied : (s.copied t n).pointer = s.pointer := by
  induction n with
  | zero => rfl
  | succ n ih => rw [copied, pointer_printing, pointer_reading, ih]

theorem cursor_copied : (s.copied t n).cursor = s.cursor + n := by
  induction n with
  | zero => rfl
  | succ n ih => rw [copied, cursor_printing, cursor_reading, ih, Nat.add_assoc]

theorem current_reading_copied : ((s.copied t n).reading t).current = t.unitAt (s.cursor + n) := by
  rw [current_reading, cursor_copied]

/-- Each unit is written over the one before. -/
theorem cells_reading_copied :
    ((s.copied t n).reading t).cells = (s.write (t.unitAt (s.cursor + n))).cells := by
  induction n with
  | zero => rfl
  | succ n ih =>
      rw [cells_reading, cursor_copied]
      simp only [write, copied, cells_printing, ih, pointer_printing, pointer_reading, pointer_copied,
        Vector.set_set]

theorem printed_copied_fresh (tapeLength : TapeLength) :
    ((fresh tapeLength).copied t n).printed.toList = t.firstUnits n := by
  induction n with
  | zero => rfl
  | succ n ih =>
      rw [copied, printed_printing, printed_reading, Array.toList_push, ih, current_reading_copied,
        cursor_fresh, Nat.zero_add, Text.firstUnits_succ]

end Machine.Store

namespace Structured.Block

open Machine (Store)

variable {size : Nat} {s : Store size} {t : Text}

/-! ### Copying as often as a number says -/

def copying : Nat → Block
  | 0 => done
  | n + 1 => (copying n).append (command .read (command .print done))

theorem text_copying (n : Nat) : (copying n).text = Text.copying n := by
  induction n with
  | zero => rfl
  | succ n ih =>
      rw [copying, text_append, ih, Text.copying, Text.copying, List.replicate_succ', List.flatten_append,
        List.flatten_singleton]
      rfl

theorem takes_copying (t : Text) (s : Store size) (n : Nat) :
    (copying n).Takes t.codeUnits.toArray s (s.copied t n) := by
  induction n with
  | zero => exact takes_done s
  | succ n ih =>
      have hread := (s.copied t n).perform_read t
      have hprint := ((s.copied t n).reading t).perform_print t.codeUnits.toArray
      exact ih.append (.command hread (.command hprint (takes_done _)))

/-! ### Copying up to a zero -/

/-- A read, and a loop that prints and reads again. -/
def copyingToZero : Block :=
  command .read (loop (command .print (command .read done)) done)

/-- The loop ends with the first zero behind the unit that is read before it. -/
theorem takes_copyingToZero {k : Nat} (hk : 1 ≤ k) (hzero : t.unitAt (s.cursor + k) = 0)
    (hbefore : ∀ m, 1 ≤ m → m < k → t.unitAt (s.cursor + m) ≠ 0) :
    copyingToZero.Takes t.codeUnits.toArray s ((s.copied t k).reading t) := by
  obtain ⟨n, rfl⟩ : ∃ n, k = n + 1 := ⟨k - 1, (Nat.sub_add_cancel hk).symm⟩
  refine .command (s.perform_read t) (.loop (fun m => (s.copied t m).reading t) ?_ ?_ ?_)
  · intro m _
    have hprint := ((s.copied t m).reading t).perform_print t.codeUnits.toArray
    have hread := (s.copied t (m + 1)).perform_read t
    exact .command hprint (.command hread (takes_done _))
  · intro m hm
    rw [Store.current_reading_copied]
    exact Int.natCast_ne_zero.mpr (hbefore (m + 1) (Nat.le_add_left 1 m) (Nat.succ_lt_succ hm))
  · rw [Store.current_reading_copied, hzero]
    rfl

end Structured.Block

namespace Script

open Machine Structured

variable {t : Text} {k : Nat}

theorem exists_first_zero (t : Text) :
    ∃ k, 1 ≤ k ∧ t.unitAt k = 0 ∧ ∀ m, 1 ≤ m → m < k → t.unitAt m ≠ 0 := by
  classical
  have hex : ∃ k, 1 ≤ k ∧ t.unitAt k = 0 :=
    ⟨t.codeUnits.length + 1, Nat.le_add_left 1 _, Text.unitAt_of_length_le (Nat.le_succ _)⟩
  obtain ⟨hk, hzero⟩ := Nat.find_spec hex
  refine ⟨Nat.find hex, hk, hzero, ?_⟩
  intro m hm hlt hzero
  exact Nat.find_min hex hlt ⟨hm, hzero⟩

theorem takes_copyingToZero_fresh (hk : 1 ≤ k) (hzero : t.unitAt k = 0)
    (hbefore : ∀ m, 1 ≤ m → m < k → t.unitAt m ≠ 0) (tapeLength : TapeLength) :
    Block.copyingToZero.Takes t.codeUnits.toArray (.fresh tapeLength)
      (((Store.fresh tapeLength).copied t k).reading t) := by
  apply Block.takes_copyingToZero hk
  · rwa [Store.cursor_fresh, Nat.zero_add]
  · intro m
    rw [Store.cursor_fresh, Nat.zero_add]
    exact hbefore m

theorem toState_copied (hzero : t.unitAt k = 0) (tapeLength : TapeLength) :
    (((Store.fresh tapeLength).copied t k).reading t).toState [] =
      { tape := Array.replicate tapeLength.cells 0
        pointer := 0
        cursor := k + 1
        openLoops := []
        output := ((List.range k).map fun i => [.ofNat (t.unitAt i)]).toArray } := by
  have hcells : (((Store.fresh tapeLength).copied t k).reading t).cells =
      (Store.fresh tapeLength).cells := by
    have hwrite := Store.write_current (Store.fresh tapeLength)
    rw [Store.current_fresh] at hwrite
    rw [Store.cells_reading_copied, Store.cursor_fresh, Nat.zero_add, hzero]
    exact congrArg Store.cells hwrite
  have hprinted : ((Store.fresh tapeLength).copied t k).printed = (t.firstUnits k).toArray := by
    rw [← Store.printed_copied_fresh t k tapeLength]
  have hitem (i : Nat) : (CodeUnit.ofInt (t.unitAt i)).toCodePoint = .ofNat (t.unitAt i) := by
    rw [CodeUnit.toCodePoint_eq_ofNat, Text.val_ofInt_unitAt]
  rw [Store.toState, hcells, Store.pointer_reading, Store.pointer_copied, Store.cursor_reading,
    Store.cursor_copied, Store.printed_reading, hprinted]
  simp only [Text.firstUnits, List.map_toArray, List.map_map, Function.comp_def, hitem, Store.fresh,
    Vector.toArray_replicate, Int.natCast_zero, Int.natCast_succ, Nat.zero_add]

/-- A read, and a loop that prints and reads again, copy the units of the input before the first zero
behind its first unit, and that first unit itself whatever it is; the end of the input is such a zero, so
the script ends on every input. An input that is not empty and holds no zero and no split pair comes back
as it is. -/
theorem runFresh_copyingToZero (input : Text) (tapeLength : TapeLength) :
    (∃ k, 1 ≤ k ∧ input.unitAt k = 0 ∧ (∀ m, 1 ≤ m → m < k → input.unitAt m ≠ 0) ∧
      ∃ steps, runFresh steps (ofString ",[.,]") input tapeLength = .ok {
        tape := Array.replicate tapeLength.cells 0
        pointer := 0
        cursor := k + 1
        openLoops := []
        output := ((List.range k).map fun i => [.ofNat (input.unitAt i)]).toArray }) ∧
    (input ≠ [] → Text.null ∉ input → input.NoSplitPair →
      ∃ steps, outputFresh steps (ofString ",[.,]") input tapeLength = .ok input) := by
  have htext : ofString ",[.,]" = Block.copyingToZero.text := rfl
  rw [htext]
  constructor
  · obtain ⟨k, hk, hzero, hbefore⟩ := exists_first_zero input
    refine ⟨k, hk, hzero, hbefore, ?_⟩
    rw [← toState_copied hzero]
    exact runFresh_of_takes (takes_copyingToZero_fresh hk hzero hbefore tapeLength)
  · intro hne hnull hpair
    have htakes := takes_copyingToZero_fresh (Text.length_codeUnits_pos hne)
      (Text.unitAt_of_length_le (Nat.le_refl _)) (fun m _ hm => Text.unitAt_ne_zero hnull hm) tapeLength
    have hprinted : (((Store.fresh tapeLength).copied input input.codeUnits.length).reading
        input).printed.toList = input.codeUnits :=
      (Store.printed_copied_fresh input _ tapeLength).trans (Text.firstUnits_length input)
    obtain ⟨steps, hsteps⟩ := outputFresh_of_takes htakes
    rw [hprinted] at hsteps
    exact ⟨steps, hsteps.trans (congrArg Except.ok (Text.joinPairs_eq_self hpair))⟩

/-- A letter, and a character of two units that is read in two rounds and comes back as one. -/
theorem runFresh_copyingToZero_pair :
    ([.ofChar 'a', .ofNat 0x1F600] : Text) ≠ [] ∧ Text.null ∉ ([.ofChar 'a', .ofNat 0x1F600] : Text) ∧
      Text.NoSplitPair [.ofChar 'a', .ofNat 0x1F600] ∧
      ∃ steps, outputFresh steps (ofString ",[.,]") [.ofChar 'a', .ofNat 0x1F600] ⟨1, by decide⟩ =
        .ok [.ofChar 'a', .ofNat 0x1F600] := by
  have hne : ([.ofChar 'a', .ofNat 0x1F600] : Text) ≠ [] := by decide
  have hnull : Text.null ∉ ([.ofChar 'a', .ofNat 0x1F600] : Text) := by decide
  have hpair : Text.NoSplitPair [.ofChar 'a', .ofNat 0x1F600] := ⟨by decide, trivial⟩
  exact ⟨hne, hnull, hpair, (runFresh_copyingToZero _ ⟨1, by decide⟩).2 hne hnull hpair⟩

/-- A read and a print as often as a number says copy as many units of the input, zeros behind its last one
included. If the number is that of its units, the output is the input with the surrogates joined that stand
as a pair, which is the input itself exactly if there are none. -/
theorem runFresh_copying (input : Text) (n : Nat) (tapeLength : TapeLength) :
    (∃ steps s, runFresh steps (Text.copying n) input tapeLength = .ok s ∧ s.cursor = n ∧
      s.stdout.codeUnits.map CodeUnit.val = (List.range n).map input.unitAt) ∧
    ∃ steps t, outputFresh steps (Text.copying input.codeUnits.length) input tapeLength = .ok t ∧
      t = input.withPairsJoined ∧ (t = input ↔ input.NoSplitPair) := by
  have htakes (m : Nat) := Block.takes_copying input (Store.fresh tapeLength) m
  have hprinted (m : Nat) := Store.printed_copied_fresh input m tapeLength
  constructor
  · obtain ⟨steps, hsteps⟩ := runFresh_of_takes (htakes n)
    rw [Block.text_copying] at hsteps
    refine ⟨steps, _, hsteps, ?_, ?_⟩
    · show (((Store.fresh tapeLength).copied input n).cursor : Int) = n
      rw [Store.cursor_copied, Store.cursor_fresh, Nat.zero_add]
    · rw [Store.stdout_toState, Text.codeUnits_ofCodeUnits, hprinted, Text.map_val_firstUnits]
  · obtain ⟨steps, hsteps⟩ := outputFresh_of_takes (htakes input.codeUnits.length)
    rw [Block.text_copying, hprinted, Text.firstUnits_length] at hsteps
    refine ⟨steps, input.joinPairs, hsteps, ?_, Text.joinPairs_eq_iff⟩
    exact Text.joinPairs_eq_withPairsJoined input

end Script

end TapeMachine
