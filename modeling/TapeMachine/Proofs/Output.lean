import TapeMachine.Proofs.Effect
import TapeMachine.Proofs.Pairing

/-! The output of a script as one text. It is the text of the units that have been printed, so two of them
that stand as a pair are one code point in it, and no output has a split pair. -/

namespace TapeMachine

namespace CodeUnit

theorem toCodePoint_eq_ofNat (u : CodeUnit) : u.toCodePoint = .ofNat u.val := by
  have h := u.isLt
  rw [CodePoint.ext_iff, CodePoint.val_ofNat (by omega)]
  rfl

theorem val_ofInt_of_lt {n : Nat} (h : n < 0x10000) : (ofInt n).val = n := by
  show ((n : Int) % 0x10000).toNat = n
  omega

theorem ofInt_val (u : CodeUnit) : ofInt u.val = u :=
  CodeUnit.ext (val_ofInt_of_lt u.isLt)

end CodeUnit

namespace Machine.Store

variable {size : Nat}

/-- The store after the current cell has been printed. -/
def printing (s : Store size) : Store size :=
  { s with printed := s.printed.push (.ofInt s.current) }

@[simp] theorem cells_printing (s : Store size) : s.printing.cells = s.cells :=
  rfl

@[simp] theorem pointer_printing (s : Store size) : s.printing.pointer = s.pointer :=
  rfl

@[simp] theorem cursor_printing (s : Store size) : s.printing.cursor = s.cursor :=
  rfl

@[simp] theorem printed_printing (s : Store size) :
    s.printing.printed = s.printed.push (.ofInt s.current) :=
  rfl

theorem perform_print (s : Store size) (input : Array CodeUnit) (i : Nat) :
    s.perform input i .print = .ok s.printing :=
  rfl

theorem stdout_toState (s : Store size) (loops : List Nat) :
    (s.toState loops).stdout = Text.ofCodeUnits s.printed.toList := by
  rw [State.stdout, toState, Array.toList_map, Text.flatten_map_singleton, Text.joinPairs,
    Text.codeUnits_ofUnits]

end Machine.Store

namespace Script

open Machine Structured

/-- The output of a script on a fresh tape of any length, however much memory there is for it. -/
def outputFresh (steps : Nat) (code input : Text) (tapeLength : TapeLength) : Except Problem Text :=
  (runFresh steps code input tapeLength).map State.stdout

theorem output_eq (steps : Nat) (code : Text) (settings : Settings) :
    output steps code settings =
      match Capacity.check settings.tapeLength.cells with
      | .error refusal => .error (.capacity refusal)
      | .ok _ => outputFresh steps code settings.input settings.tapeLength := by
  rw [output, run_eq]
  cases Capacity.check settings.tapeLength.cells <;> rfl

variable {steps : Nat} {code input t : Text} {tapeLength : TapeLength}

theorem outputFresh_eq_ok_iff :
    outputFresh steps code input tapeLength = .ok t ↔
      ∃ s, runFresh steps code input tapeLength = .ok s ∧ s.stdout = t := by
  rw [outputFresh]
  cases runFresh steps code input tapeLength <;> simp [Except.map]

theorem noSplitPair_of_outputFresh (h : outputFresh steps code input tapeLength = .ok t) :
    t.NoSplitPair := by
  obtain ⟨s, _, rfl⟩ := outputFresh_eq_ok_iff.mp h
  exact Text.noSplitPair_ofCodeUnits _

theorem outputFresh_of_takes {b : Block} {s : Store tapeLength.cells}
    (h : b.Takes input.codeUnits.toArray (.fresh tapeLength) s) :
    ∃ steps, outputFresh steps b.text input tapeLength = .ok (Text.ofCodeUnits s.printed.toList) := by
  obtain ⟨steps, hrun⟩ := runFresh_of_takes h
  exact ⟨steps, outputFresh_eq_ok_iff.mpr ⟨_, hrun, s.stdout_toState []⟩⟩

end Script

end TapeMachine
