import TapeMachine.Proofs.Bounds

/-! What a run knows of its input. The input is read one unit at a time and goes on with zeros behind its
last unit, so a run depends only on as many units as it has read. Two inputs that agree so far are not
told apart, whether they agree in their code points or not, and the end of an input is not told apart from
zeros. -/

namespace TapeMachine

namespace Text

/-- The code point zero. -/
def null : CodePoint := ⟨0, by decide⟩

/-- The unit of a text at an index, and zero behind its last one. -/
def unitAt (t : Text) (i : Nat) : Nat :=
  match t.codeUnits[i]? with
  | some u => u.val
  | none => 0

variable {t u : Text} {i : Nat}

theorem unitAt_of_lt (h : i < t.codeUnits.length) : t.unitAt i = t.codeUnits[i].val := by
  rw [unitAt, List.getElem?_eq_getElem h]

theorem unitAt_of_length_le (h : t.codeUnits.length ≤ i) : t.unitAt i = 0 := by
  rw [unitAt, List.getElem?_eq_none h]

theorem unitAt_lt (t : Text) (i : Nat) : t.unitAt i < 0x10000 := by
  by_cases h : i < t.codeUnits.length
  · rw [unitAt_of_lt h]
    exact t.codeUnits[i].isLt
  · rw [unitAt_of_length_le (Nat.le_of_not_lt h)]
    decide

theorem unitAt_append_of_lt (h : i < t.codeUnits.length) : unitAt (t ++ u) i = t.unitAt i := by
  rw [unitAt, codeUnits_append, List.getElem?_append_left h, unitAt]

theorem codeUnits_replicate_null (n : Nat) :
    codeUnits (List.replicate n null) = List.replicate n ⟨0, by decide⟩ := by
  induction n with
  | zero => rfl
  | succ n ih => rw [List.replicate_succ, codeUnits_cons, ih, List.replicate_succ]; rfl

theorem unitAt_append_replicate_null (t : Text) (n i : Nat) :
    unitAt (t ++ List.replicate n null) i = t.unitAt i := by
  by_cases h : i < t.codeUnits.length
  · exact unitAt_append_of_lt h
  · have hle : t.codeUnits.length ≤ i := Nat.le_of_not_lt h
    rw [unitAt, unitAt, codeUnits_append, codeUnits_replicate_null, List.getElem?_append_right hle,
      List.getElem?_eq_none hle, List.getElem?_replicate]
    by_cases hn : i - t.codeUnits.length < n
    · rw [if_pos hn]
    · rw [if_neg hn]

end Text

namespace Machine

variable {code input other : Text} {tapeLength : TapeLength} {m n : Nat} {p : Place tapeLength.cells}

theorem Store.nextUnit_eq_unitAt {size : Nat} (s : Store size) (t : Text) :
    s.nextUnit t.codeUnits.toArray = t.unitAt s.cursor := by
  rw [Store.nextUnit, Text.unitAt, List.getElem?_toArray]
  cases t.codeUnits[s.cursor]? <;> rfl

/-- How many units a script has read after a number of iterations. -/
def reads (code input : Text) (tapeLength : TapeLength) (n : Nat) : Nat :=
  (executions .read code input tapeLength n).length

theorem reads_mono (h : m ≤ n) : reads code input tapeLength m ≤ reads code input tapeLength n := by
  induction n with
  | zero => rw [Nat.le_zero.mp h]
  | succ n ih =>
      rcases Nat.lt_or_eq_of_le h with hlt | rfl
      · have hle := ih (Nat.le_of_lt_succ hlt)
        have hsucc : reads code input tapeLength n ≤ reads code input tapeLength (n + 1) := by
          rw [reads, reads, executions, List.length_append]
          exact Nat.le_add_right _ _
        exact Nat.le_trans hle hsucc
      · exact Nat.le_refl _

/-- At a read the cursor stands on a unit that is among those read afterwards. -/
theorem Visits.cursor_lt_reads (h : Visits code input tapeLength m p)
    (hread : code.instruction? p.position = some .read) (hmn : m < n) :
    p.store.cursor < reads code input tapeLength n := by
  have hsucc : reads code input tapeLength (m + 1) = p.store.cursor + 1 := by
    rw [reads, h.executions_succ, if_pos hread, List.length_append, h.cursor_eq]
    rfl
  have hle : reads code input tapeLength (m + 1) ≤ reads code input tapeLength n := reads_mono hmn
  omega

/-- Inputs that agree in the units that are read lead to the same outcome. -/
theorem runFrom_congr_input
    (h : ∀ i < reads code input tapeLength n, other.unitAt i = input.unitAt i) :
    runFrom n code other (.fresh tapeLength.cells) = runFrom n code input (.fresh tapeLength.cells) := by
  apply runFrom_congr
  intro m hm p hp
  refine Place.step_congr rfl fun hread => ?_
  rw [Store.nextUnit_eq_unitAt, Store.nextUnit_eq_unitAt, h _ (hp.cursor_lt_reads hread hm)]

/-- They also lead to the same number of reads. -/
theorem reads_congr_input
    (h : ∀ i < reads code input tapeLength n, other.unitAt i = input.unitAt i) :
    reads code other tapeLength n = reads code input tapeLength n := by
  have hsame (m : Nat) (hm : m ≤ n) :
      executions .read code other tapeLength m = executions .read code input tapeLength m := by
    induction m with
    | zero => rfl
    | succ m ih =>
        have hagree (i : Nat) (hi : i < reads code input tapeLength m) : other.unitAt i = input.unitAt i :=
          h i (Nat.lt_of_lt_of_le hi (reads_mono (Nat.le_of_succ_le hm)))
        rw [executions, executions, ih (Nat.le_of_succ_le hm), runFrom_congr_input hagree]
  rw [reads, reads, hsame n (Nat.le_refl n)]

end Machine

namespace Script

open Machine

variable {code input other : Text} {tapeLength : TapeLength} {steps : Nat}

theorem runFresh_congr_input
    (h : ∀ i < reads code input tapeLength steps, other.unitAt i = input.unitAt i) :
    runFresh steps code other tapeLength = runFresh steps code input tapeLength := by
  rw [runFresh, runFresh, runFrom_congr_input h]

/-- A run depends only on the units it has read. After any number of iterations, whether it has ended by
then or not, it stands as it would on each input that agrees with its own in those units, and has read as
many. So it makes no difference what follows them, nor whether an input ends or goes on with zeros, and a
run that never ends does not end on another input that it cannot tell from its own. -/
theorem runFresh_depends_on_reads (code input : Text) (tapeLength : TapeLength) :
    (∀ steps other, (∀ i < reads code input tapeLength steps, other.unitAt i = input.unitAt i) →
      runFresh steps code other tapeLength = runFresh steps code input tapeLength ∧
        reads code other tapeLength steps = reads code input tapeLength steps) ∧
    (∀ steps front back, (∀ i < reads code input tapeLength steps, front.unitAt i = input.unitAt i) →
      reads code input tapeLength steps ≤ front.codeUnits.length →
        runFresh steps code (front ++ back) tapeLength = runFresh steps code input tapeLength) ∧
    (∀ steps n, runFresh steps code (input ++ List.replicate n Text.null) tapeLength =
      runFresh steps code input tapeLength) ∧
    ((∀ steps, runFresh steps code input tapeLength = .error .unfinished) →
      ∀ other, (∀ steps, ∀ i < reads code input tapeLength steps, other.unitAt i = input.unitAt i) →
        ∀ steps, runFresh steps code other tapeLength = .error .unfinished) := by
  refine ⟨?agree, ?append, ?null, ?forever⟩
  case agree =>
    intro steps other h
    exact ⟨runFresh_congr_input h, reads_congr_input h⟩
  case append =>
    intro steps front back h hlength
    apply runFresh_congr_input
    intro i hi
    rw [Text.unitAt_append_of_lt (Nat.lt_of_lt_of_le hi hlength), h i hi]
  case null =>
    intro steps n
    exact runFresh_congr_input fun i _ => Text.unitAt_append_replicate_null input n i
  case forever =>
    intro hforever other h steps
    rw [runFresh_congr_input (h steps), hforever steps]

end Script

end TapeMachine
