import Mathlib.Data.List.Forall2
import TapeMachine.Proofs.LoopStack

/-! What every run keeps: the tape has the length it was made with and the pointer stays on it, the
cursor counts the reads, and the output is what was under the pointer at each print. A run fails only
for the three reasons that are reported with a place in the script. -/

namespace TapeMachine.Machine

/-- The configurations among the first iterations of a script at which an instruction is executed. -/
def executions (instruction : Instruction) (code input : Text) (tapeLength : TapeLength) :
    Nat → List Configuration
  | 0 => []
  | n + 1 =>
    executions instruction code input tapeLength n ++
      match runFrom n code input (.fresh tapeLength.cells) with
      | .unfinished c => if code[c.position]? = some (.ofChar instruction.symbol) then [c] else []
      | _ => []

/-- An item of the output is one code unit, the value under the pointer at the time modulo `0x10000`. -/
def Prints (item : Text) (c : Configuration) : Prop :=
  ∃ u : CodePoint, ∃ value : Int, item = [u] ∧ u.val < 0x10000 ∧
    c.state.tape[c.state.pointer.toNat]? = some value ∧ (u.val : Int) = value % 0x10000

/-- The bounds of a configuration that a script comes to after a number of iterations. -/
structure WithinBounds (code input : Text) (tapeLength : TapeLength) (n : Nat) (c : Configuration) :
    Prop where
  tape_size : c.state.tape.size = tapeLength.cells
  pointer_nonneg : 0 ≤ c.state.pointer
  pointer_lt : c.state.pointer < tapeLength.cells
  position_le : c.position ≤ code.length
  cursor_eq : c.state.cursor = (executions .read code input tapeLength n).length
  output : List.Forall₂ Prints c.state.output.toList (executions .print code input tapeLength n)
  /-- Each open loop has its opening symbol before the position. -/
  loopStarts : ∀ start ∈ c.state.loopStarts,
    start < c.position ∧ code[start]? = some (.ofChar '[')

namespace Place

variable {size : Nat} {code : Text} {input : Array CodeUnit} {p q : Place size}

theorem Next.cursor_eq (h : Next code input p q) :
    q.store.cursor = p.store.cursor + if code.instruction? p.position = some .read then 1 else 0 := by
  cases h with
  | perform command hi hs =>
      rw [Store.cursor_of_perform hs, hi]
      cases command <;> rfl
  | enter hi | leave hi _ | resume hi _ => simp [hi]

theorem Next.printed_eq (h : Next code input p q) :
    q.store.printed =
      if code.instruction? p.position = some .print then p.store.printed.push (.ofInt p.store.current)
      else p.store.printed := by
  cases h with
  | perform command hi hs =>
      rw [Store.printed_of_perform hs, hi]
      cases command <;> rfl
  | enter hi | leave hi _ | resume hi _ => simp [hi]

end Place

variable {code input : Text} {tapeLength : TapeLength} {n : Nat} {p : Place tapeLength.cells}

theorem Visits.executions_succ (h : Visits code input tapeLength n p) (instruction : Instruction) :
    executions instruction code input tapeLength (n + 1) =
      executions instruction code input tapeLength n ++
        if code.instruction? p.position = some instruction then [p.configuration] else [] := by
  rw [executions, h.runFrom_eq]
  simp only [Text.instruction?_eq_some_iff]
  rfl

theorem Visits.cursor_eq (h : Visits code input tapeLength n p) :
    p.store.cursor = (executions .read code input tapeLength n).length := by
  induction h with
  | refl => rfl
  | @next n q r hq hr ih =>
      rw [hr.cursor_eq, ih, Visits.executions_succ hq, List.length_append]
      split <;> rfl

theorem prints_current {size : Nat} (p : Place size) :
    Prints [(CodeUnit.ofInt p.store.current).toCodePoint] p.configuration := by
  refine ⟨_, p.store.current, rfl, (CodeUnit.ofInt p.store.current).isLt, ?_, ?_⟩
  · simp [Place.configuration, Store.toState, Store.current, Vector.get]
  · have hnonneg : 0 ≤ p.store.current % 0x10000 := Int.emod_nonneg _ (by decide)
    exact Int.toNat_of_nonneg hnonneg

theorem Visits.output_prints (h : Visits code input tapeLength n p) :
    List.Forall₂ Prints p.configuration.state.output.toList
      (executions .print code input tapeLength n) := by
  induction h with
  | refl => simp [Place.start, Place.configuration, Store.toState, Store.fresh, executions]
  | @next n q r hq hr ih =>
      rw [Visits.executions_succ hq]
      simp only [Place.configuration, Store.toState, Array.toList_map, hr.printed_eq] at ih ⊢
      split
      · rw [Array.toList_push, List.map_append]
        exact List.rel_append ih (.cons (prints_current q) .nil)
      · rwa [List.append_nil]

theorem Visits.withinBounds (h : Visits code input tapeLength n p) :
    WithinBounds code input tapeLength n p.configuration where
  tape_size := p.store.cells.size_toArray
  pointer_nonneg := Int.natCast_nonneg _
  pointer_lt := Int.ofNat_lt.mpr p.store.pointer.isLt
  position_le := h.position_le
  cursor_eq := congrArg Int.ofNat h.cursor_eq
  output := h.output_prints
  loopStarts := by
    intro start hstart
    rw [h.loopStarts_eq, List.mem_reverse] at hstart
    exact ⟨Text.lt_of_mem_openBefore hstart,
      Text.instruction?_eq_some_iff.mp (Text.instruction?_of_mem_openBefore hstart)⟩

/-- Once a run has ended it executes nothing more. -/
theorem executions_of_ended {o : Outcome} {m : Nat} (instruction : Instruction)
    (h : runFrom m code input (.fresh tapeLength.cells) = o) (ho : ∀ c, o ≠ .unfinished c) (hmn : m ≤ n) :
    executions instruction code input tapeLength n = executions instruction code input tapeLength m := by
  induction n with
  | zero =>
      obtain rfl : m = 0 := Nat.le_zero.mp hmn
      rfl
  | succ n ih =>
      rcases Nat.lt_or_eq_of_le hmn with hlt | rfl
      · have hle : m ≤ n := Nat.le_of_lt_succ hlt
        rw [executions, runFrom_of_le h ho hle]
        cases o with
        | unfinished c => exact absurd rfl (ho c)
        | finished | failed => rw [List.append_nil, ih hle]
      · rfl

/-- The last iteration of a run executes an instruction only if that instruction stands there. -/
theorem Visits.executions_of_ended (h : Visits code input tapeLength n p) {m : Nat} {o : Outcome}
    {instruction : Instruction}
    (hlast : runFrom (n + 1) code input (.fresh tapeLength.cells) = o) (ho : ∀ c, o ≠ .unfinished c)
    (hp : code.instruction? p.position ≠ some instruction) (hnm : n < m) :
    executions instruction code input tapeLength m = executions instruction code input tapeLength n := by
  rw [Machine.executions_of_ended instruction hlast ho hnm, h.executions_succ, if_neg hp, List.append_nil]

theorem withinBounds_of_finished {s : State}
    (h : runFrom n code input (.fresh tapeLength.cells) = .finished s) :
    WithinBounds code input tapeLength n ⟨code.length, s⟩ := by
  obtain ⟨m, hmn, p, hp, hend, rfl⟩ := finishes_of_runFrom h
  have hposition : p.position = code.length := Nat.le_antisymm hp.position_le hend
  have hlast := hp.runFrom_succ_of_length_le hend
  have hsame (instruction : Instruction) : executions instruction code input tapeLength n =
      executions instruction code input tapeLength m := by
    apply hp.executions_of_ended hlast (fun _ ho => nomatch ho) ?_ hmn
    intro hi
    exact absurd (Text.lt_length_of_instruction? hi) (Nat.not_lt_of_le hend)
  have hbounds := hp.withinBounds
  rw [Place.configuration, hposition] at hbounds
  exact { hbounds with
    cursor_eq := by rw [hsame]; exact hbounds.cursor_eq
    output := by rw [hsame]; exact hbounds.output }

/-- A move off the tape leads one cell beyond an end of it, and is reported with the number of reads. -/
theorem overrun_cases {m : Nat} {i : Nat} {s : Store tapeLength.cells} {loops : List Nat}
    {command : Command} {o : Overrun} (hp : Visits code input tapeLength m ⟨i, s, loops⟩)
    (hi : code.instruction? i = some command.instruction)
    (hs : s.perform input.codeUnits.toArray i command = .error o) (hmn : m < n) :
    ∃ pointer : Int,
      o = ⟨pointer, i, (executions .read code input tapeLength n).length, tapeLength.cells⟩ ∧
        ((pointer = -1 ∧ code[i]? = some (.ofChar '<')) ∨
          (pointer = tapeLength.cells ∧ code[i]? = some (.ofChar '>'))) := by
  have hcursor : s.cursor = (executions .read code input tapeLength n).length := by
    have hread : command.instruction ≠ .read := by
      rcases Store.perform_eq_error hs with ⟨rfl, _⟩ | ⟨rfl, _⟩ <;> decide
    have hlast := hp.runFrom_succ_of_fails (.overrun command hi hs)
    rw [hp.executions_of_ended hlast (fun _ ho => nomatch ho) (by simpa [hi] using hread) hmn]
    exact hp.cursor_eq
  rw [← hcursor]
  rcases Store.perform_eq_error hs with ⟨rfl, rfl⟩ | ⟨rfl, rfl⟩
  · exact ⟨-1, rfl, Or.inl ⟨rfl, Text.instruction?_eq_some_iff.mp hi⟩⟩
  · exact ⟨tapeLength.cells, rfl, Or.inr ⟨rfl, Text.instruction?_eq_some_iff.mp hi⟩⟩

end TapeMachine.Machine

namespace TapeMachine.Script

open Machine

/-- A run stays within bounds to its end, and the only failures it can end in are those reported with
their place. A move off the tape leads one cell beyond an end of it, and its report has the length of the
tape and the number of reads. -/
theorem runFresh_withinBounds (code input : Text) (tapeLength : TapeLength) (n : Nat) :
    (∀ c, runFrom n code input (.fresh tapeLength.cells) = .unfinished c →
      WithinBounds code input tapeLength n c) ∧
    (∀ s, runFresh n code input tapeLength = .ok s →
      WithinBounds code input tapeLength n ⟨code.length, s⟩) ∧
    ∀ problem, runFresh n code input tapeLength = .error problem →
      problem = .unfinished ∨
      (∃ symbol position place excerpt,
        problem = .fault (.invalidInstruction symbol position place excerpt)) ∨
      (∃ position excerpt, problem = .fault (.unbalancedLoop position excerpt)) ∨
      ∃ (pointer : Int) (position : Nat),
        problem = .fault (.pointerRange pointer position
          (executions .read code input tapeLength n).length tapeLength.cells) ∧
        ((pointer = -1 ∧ code[position]? = some (.ofChar '<')) ∨
          (pointer = tapeLength.cells ∧ code[position]? = some (.ofChar '>'))) := by
  refine ⟨fun c hc => ?_, fun s hs => withinBounds_of_finished (runFresh_eq_ok_iff.mp hs),
    fun problem hproblem => ?_⟩
  · obtain ⟨p, hp, rfl⟩ := visits_of_runFrom hc
    exact hp.withinBounds
  · rcases runFresh_eq_error hproblem with hunfinished | ⟨failure, hfailure, rfl⟩
    · exact Or.inl hunfinished
    · right
      obtain ⟨m, hmn, p, hp, hfails⟩ := fails_of_runFrom hfailure
      cases hfails with
      | @overrun i s loops o command hi hs =>
          obtain ⟨pointer, rfl, hpointer⟩ := overrun_cases hp hi hs hmn
          exact Or.inr (Or.inr ⟨pointer, i, rfl, hpointer⟩)
      | unbalanced hi => exact Or.inr (Or.inl ⟨_, _, rfl⟩)
      | invalid hc hi =>
          left
          rw [Fault.ofFailure, invalidInstructionAt_eq hc]
          exact ⟨_, _, _, _, rfl⟩

end TapeMachine.Script
