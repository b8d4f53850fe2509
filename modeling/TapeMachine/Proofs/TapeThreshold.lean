import TapeMachine.Proofs.Bounds

/-! Tapes of different lengths. A run needs as many cells as lie up to the highest one its pointer comes to.
On every tape that has them it ends in the same way, and what it leaves on the tape is the same but for
zeros at the end; on every shorter tape it fails where it would move onto the first cell that is missing. -/

namespace TapeMachine

namespace Machine

/-- The state with its tape cut or filled up with zeros to a length. -/
def State.onTape (s : State) (length : Nat) : State :=
  { s with tape := Array.ofFn fun i : Fin length => s.tape.getD i 0 }

/-- The failure as it is on a tape of another length. -/
def Failure.onTape (length : Nat) : Failure → Failure
  | .pointerRange pointer position cursor _ => .pointerRange pointer position cursor length
  | failure => failure

variable {size size' : Nat}

namespace Store

/-- The value of a cell, zero behind the end of the tape. -/
def cellAt (s : Store size) (i : Nat) : Int :=
  s.cells.toArray.getD i 0

/-- Two stores differ in the length of their tapes only: a cell that one of them lacks is zero in the
other. -/
structure Alike (s : Store size) (s' : Store size') : Prop where
  cells : ∀ i, s.cellAt i = s'.cellAt i
  pointer : s.pointer.val = s'.pointer.val
  cursor : s.cursor = s'.cursor
  printed : s.printed = s'.printed

variable {s t : Store size} {s' : Store size'} {input : Array CodeUnit} {position : Nat}
  {command : Command}

theorem current_eq_cellAt (s : Store size) : s.current = s.cellAt s.pointer.val := by
  simp [current, cellAt, Vector.get]

theorem cellAt_write (s : Store size) (value : Int) (i : Nat) :
    (s.write value).cellAt i = if i = s.pointer.val then value else s.cellAt i := by
  have hpointer := s.pointer.isLt
  by_cases h : i = s.pointer.val
  · subst h
    simp [write, cellAt]
  · simp [write, cellAt, h, Ne.symm h]

theorem cellAt_of_le {i : Nat} (h : size ≤ i) : s.cellAt i = 0 := by
  simp [cellAt, h]

theorem alike_fresh (tapeLength other : TapeLength) : Alike (fresh tapeLength) (fresh other) where
  cells i := by
    have hzero (tapeLength : TapeLength) : (fresh tapeLength).cellAt i = 0 := by
      by_cases hi : i < tapeLength.cells
      · simp [fresh, cellAt, hi]
      · exact cellAt_of_le (Nat.le_of_not_lt hi)
    rw [hzero, hzero]
  pointer := rfl
  cursor := rfl
  printed := rfl

namespace Alike

theorem current_eq (h : s.Alike s') : s.current = s'.current := by
  rw [current_eq_cellAt, current_eq_cellAt, h.cells, h.pointer]

theorem nextUnit_eq (h : s.Alike s') : s.nextUnit input = s'.nextUnit input := by
  rw [nextUnit, nextUnit, h.cursor]

theorem write (h : s.Alike s') (value : Int) : (s.write value).Alike (s'.write value) where
  cells i := by rw [cellAt_write, cellAt_write, h.pointer, h.cells]
  pointer := h.pointer
  cursor := h.cursor
  printed := h.printed

/-- A command does the same to both as long as the pointer stays on the second tape. -/
theorem perform (h : s.Alike s') (hs : s.perform input position command = .ok t)
    (hpointer : t.pointer.val < size') :
    ∃ t', s'.perform input position command = .ok t' ∧ t.Alike t' := by
  cases command with
  | right =>
      rw [Store.perform] at hs
      split at hs
      · cases hs
        have hlt : s'.pointer.val + 1 < size' := h.pointer ▸ hpointer
        exact ⟨_, dif_pos hlt, h.cells, congrArg (· + 1) h.pointer, h.cursor, h.printed⟩
      · cases hs
  | left =>
      rw [Store.perform] at hs
      split at hs
      · next hpos =>
          cases hs
          have hpos' : 0 < s'.pointer.val := h.pointer ▸ hpos
          exact ⟨_, if_pos hpos', h.cells, congrArg (· - 1) h.pointer, h.cursor, h.printed⟩
      · cases hs
  | increment =>
      cases hs
      exact ⟨_, rfl, h.current_eq ▸ h.write _⟩
  | decrement =>
      cases hs
      exact ⟨_, rfl, h.current_eq ▸ h.write _⟩
  | print =>
      cases hs
      refine ⟨_, rfl, h.cells, h.pointer, h.cursor, ?_⟩
      rw [h.current_eq, h.printed]
  | read =>
      cases hs
      have hwrite := h.write (s.nextUnit input)
      refine ⟨_, rfl, ?_, h.pointer, congrArg (· + 1) h.cursor, h.printed⟩
      rw [← h.nextUnit_eq]
      exact hwrite.cells

theorem perform_left (h : s.Alike s') {o : Overrun}
    (hs : s.perform input position .left = .error o) :
    s'.perform input position .left = .error { o with tapeLength := size' } := by
  rw [Store.perform] at hs
  split at hs
  · cases hs
  · next hfirst =>
      cases hs
      rw [Store.perform, if_neg (h.pointer ▸ hfirst), h.pointer, h.cursor]

theorem toState_eq (h : s.Alike s') (loops : List Nat) :
    s'.toState loops = (s.toState loops).onTape size' := by
  have htape : s'.cells.toArray = Array.ofFn fun i : Fin size' => s.cells.toArray.getD i 0 := by
    apply Array.ext
    · simp
    · intro i hi _
      have hsize : i < size' := by simpa using hi
      simpa [cellAt, hsize] using (h.cells i).symm
  simp only [toState, State.onTape, htape, h.pointer, h.cursor, h.printed]

end Alike

end Store

namespace Place

variable {code : Text} {input : Array CodeUnit} {p q : Place size} {p' : Place size'}

/-- The same position and loops, with stores that differ in the length of their tapes only. -/
structure Alike (p : Place size) (p' : Place size') : Prop where
  position : p.position = p'.position
  store : p.store.Alike p'.store
  openLoops : p.openLoops = p'.openLoops

/-- An iteration does the same to both as long as the pointer stays on the second tape. -/
theorem Next.alike (h : Next code input p q) (hp : p.Alike p') (hq : q.store.pointer.val < size') :
    ∃ q', Next code input p' q' ∧ q.Alike q' := by
  obtain ⟨i', s', loops'⟩ := p'
  obtain ⟨hposition, hstore, hloops⟩ := hp
  cases h with
  | @perform i s t loops command hi hs =>
      obtain rfl : i = i' := hposition
      obtain ⟨t', ht', halike⟩ := hstore.perform hs hq
      exact ⟨_, .perform command hi ht', rfl, halike, hloops⟩
  | @enter i s loops hi =>
      obtain rfl : i = i' := hposition
      exact ⟨_, .enter hi, rfl, hstore, congrArg (i :: ·) hloops⟩
  | @leave i start s loops hi hzero =>
      obtain rfl : i = i' := hposition
      obtain rfl : start :: loops = loops' := hloops
      exact ⟨_, .leave hi (hstore.current_eq ▸ hzero), rfl, hstore, rfl⟩
  | @resume i start s loops hi hzero =>
      obtain rfl : i = i' := hposition
      obtain rfl : start :: loops = loops' := hloops
      exact ⟨_, .resume hi (hstore.current_eq ▸ hzero), rfl, hstore, rfl⟩

/-- A pointer moves to the right only where the script says so, and by one cell. -/
theorem Next.pointer_cases (h : Next code input p q) :
    q.store.pointer.val ≤ p.store.pointer.val ∨
      (code.instruction? p.position = some .right ∧
        q.store.pointer.val = p.store.pointer.val + 1) := by
  cases h with
  | perform command hi hs =>
      cases command with
      | right =>
          rw [Store.perform] at hs
          split at hs
          · cases hs
            exact Or.inr ⟨hi, rfl⟩
          · cases hs
      | left =>
          rw [Store.perform] at hs
          split at hs
          · cases hs
            exact Or.inl (Nat.sub_le _ _)
          · cases hs
      | increment | decrement | print | read =>
          cases hs
          exact Or.inl (Nat.le_refl _)
  | enter | leave | resume => exact Or.inl (Nat.le_refl _)

theorem fails_of_last_cell (hi : code.instruction? p.position = some .right)
    (hlast : p.store.pointer.val + 1 = size) :
    Fails code input p (.pointerRange size p.position p.store.cursor size) := by
  obtain ⟨i, s, loops⟩ := p
  have hs : s.perform input i .right = .error ⟨size, i, s.cursor, size⟩ := by
    have hpointer : (s.pointer.val : Int) + 1 = size := by exact_mod_cast hlast
    rw [Store.perform, dif_neg (by simp only at hlast; omega), hpointer]
  exact .overrun .right hi hs

/-- Unless it is a move off the right end of the first tape, a failure is the same on both tapes but for
their length. -/
theorem Fails.alike {failure : Failure} (h : Fails code input p failure) (hp : p.Alike p')
    (hright : ∀ position cursor words, failure ≠ .pointerRange size position cursor words) :
    Fails code input p' (failure.onTape size') := by
  obtain ⟨i', s', loops'⟩ := p'
  obtain ⟨hposition, hstore, hloops⟩ := hp
  cases h with
  | @overrun i s loops o command hi hs =>
      obtain rfl : i = i' := hposition
      rcases Store.perform_eq_error hs with ⟨rfl, rfl⟩ | ⟨_, rfl⟩
      · exact .overrun .left hi (hstore.perform_left hs)
      · exact absurd rfl (hright i s.cursor size)
  | @unbalanced i s hi =>
      obtain rfl : i = i' := hposition
      obtain rfl : [] = loops' := hloops
      exact .unbalanced hi
  | @invalid i s loops c hc hi =>
      obtain rfl : i = i' := hposition
      exact .invalid hc hi

end Place

variable {code input : Text} {tapeLength other : TapeLength} {n : Nat} {p : Place tapeLength.cells}

/-- As long as its pointer stays on the other tape too, a run goes the same way on it. -/
theorem Visits.alike (h : Visits code input tapeLength n p)
    (hbelow : ∀ m ≤ n, ∀ q, Visits code input tapeLength m q → q.store.pointer.val < other.cells) :
    ∃ p', Visits code input other n p' ∧ p.Alike p' := by
  induction h with
  | refl => exact ⟨.start other, .refl, rfl, Store.alike_fresh tapeLength other, rfl⟩
  | @next n q r hq hr ih =>
      obtain ⟨q', hq', hqalike⟩ := ih fun m hm => hbelow m (Nat.le_succ_of_le hm)
      obtain ⟨r', hr', hralike⟩ := hr.alike hqalike (hbelow (n + 1) (Nat.le_refl _) r (.next hq hr))
      exact ⟨r', .next hq' hr', hralike⟩

section Longer

variable (hbelow : ∀ m q, Visits code input tapeLength m q → q.store.pointer.val < other.cells)

include hbelow

theorem runFrom_of_finished {s : State} (h : runFrom n code input (.fresh tapeLength.cells) = .finished s) :
    runFrom n code input (.fresh other.cells) = .finished (s.onTape other.cells) ∧
      ∀ i, other.cells ≤ i → s.tape.getD i 0 = 0 := by
  obtain ⟨m, hmn, p, hp, hend, rfl⟩ := finishes_of_runFrom h
  obtain ⟨p', hp', halike⟩ := hp.alike fun m _ => hbelow m
  have hlast := hp'.runFrom_succ_of_length_le (halike.position ▸ hend)
  rw [halike.store.toState_eq, ← halike.openLoops] at hlast
  refine ⟨runFrom_of_le hlast nofun hmn, fun i hi => ?_⟩
  calc p.store.cellAt i = p'.store.cellAt i := halike.store.cells i
    _ = 0 := Store.cellAt_of_le hi

theorem runFrom_of_failed {failure : Failure}
    (h : runFrom n code input (.fresh tapeLength.cells) = .failed failure)
    (hright : ∀ position cursor words,
      failure ≠ .pointerRange tapeLength.cells position cursor words) :
    runFrom n code input (.fresh other.cells) = .failed (failure.onTape other.cells) := by
  obtain ⟨m, hmn, p, hp, hfails⟩ := fails_of_runFrom h
  obtain ⟨p', hp', halike⟩ := hp.alike fun m _ => hbelow m
  exact runFrom_of_le (hp'.runFrom_succ_of_fails (hfails.alike halike hright)) nofun hmn

end Longer

/-- On a tape without a cell that a run comes to, the move onto the first cell that is missing fails. -/
theorem exists_overrun (hp : Visits code input tapeLength n p)
    (hpointer : other.cells ≤ p.store.pointer.val) :
    ∃ (m position cursor : Nat), code.instruction? position = some .right ∧
      runFrom m code input (.fresh other.cells) =
        .failed (.pointerRange other.cells position cursor other.cells) := by
  obtain ⟨m, _, q, hq, hreached, hfirst⟩ :=
    hp.exists_first (P := fun q => other.cells ≤ q.store.pointer.val) hpointer
  cases hq with
  | refl => exact absurd hreached (Nat.not_le_of_lt other.positive)
  | @next m r q hr hnext =>
      have hbelow (j : Nat) (hj : j ≤ m) (s : Place tapeLength.cells)
          (hs : Visits code input tapeLength j s) : s.store.pointer.val < other.cells :=
        Nat.lt_of_not_le (hfirst j (Nat.lt_succ_of_le hj) s hs)
      have hlt := hbelow m (Nat.le_refl m) r hr
      obtain ⟨r', hr', halike⟩ := Visits.alike hr hbelow
      rcases hnext.pointer_cases with hle | ⟨hi, hmove⟩
      · omega
      · have hsame := halike.store.pointer
        have hlast : r'.store.pointer.val + 1 = other.cells := by omega
        have hfails : Place.Fails code input.codeUnits.toArray r' _ :=
          Place.fails_of_last_cell (halike.position ▸ hi) hlast
        exact ⟨m + 1, _, _, halike.position ▸ hi, hr'.runFrom_succ_of_fails hfails⟩

end Machine

/-- The report as it is on a tape of another length. -/
def Fault.onTape (length : Nat) : Fault → Fault
  | .pointerRange pointer position cursor _ => .pointerRange pointer position cursor length
  | fault => fault

theorem Fault.ofFailure_onTape (source : Text) (failure : Machine.Failure) (length : Nat) :
    ofFailure source (failure.onTape length) = (ofFailure source failure).onTape length := by
  cases failure with
  | invalidInstruction symbol position =>
      have hsame := Script.map_invalidInstructionAt (Fault.onTape length) (fun _ _ _ _ => rfl) rfl rfl
      exact (hsame source position).symm
  | pointerRange | missingItem | missingCell | notAddressable | unbalancedLoop => rfl

namespace Script

open Machine

/-- A run that ends otherwise than at the right end of its tape has a threshold. On every tape with at
least as many cells it ends in the same way: with the same state, the tape cut or filled up with zeros and
no other cell lost, or with the same report but for the length of the tape. On every shorter one it fails
by a move to the right off the last cell. -/
theorem runFresh_tapeLength_threshold (code input : Text) (tapeLength : TapeLength) (steps : Nat)
    (hends : runFresh steps code input tapeLength ≠ .error .unfinished)
    (hright : ∀ position cursor words, runFresh steps code input tapeLength ≠
      .error (.fault (.pointerRange tapeLength.cells position cursor words))) :
    ∃ threshold, 1 ≤ threshold ∧ threshold ≤ tapeLength.cells ∧ ∀ other : TapeLength,
      (threshold ≤ other.cells →
        (∃ s, runFresh steps code input tapeLength = .ok s ∧
          runFresh steps code input other = .ok (s.onTape other.cells) ∧
          ∀ i, other.cells ≤ i → s.tape.getD i 0 = 0) ∨
        ∃ fault, runFresh steps code input tapeLength = .error (.fault fault) ∧
          runFresh steps code input other = .error (.fault (fault.onTape other.cells))) ∧
      (other.cells < threshold →
        ∃ (steps' position cursor : Nat), code[position]? = some (.ofChar '>') ∧
          runFresh steps' code input other =
            .error (.fault (.pointerRange other.cells position cursor other.cells))) := by
  obtain ⟨n, p, hp, hgreatest⟩ := exists_greatest (fun p => p.store.pointer.val)
    fun n p (_ : Visits code input tapeLength n p) => Nat.le_of_lt p.store.pointer.isLt
  refine ⟨p.store.pointer.val + 1, Nat.le_add_left 1 _, p.store.pointer.isLt, fun other => ⟨?_, ?_⟩⟩
  · intro hthreshold
    have hbelow (m : Nat) (q : Place tapeLength.cells) (hq : Visits code input tapeLength m q) :
        q.store.pointer.val < other.cells :=
      Nat.lt_of_lt_of_le (Nat.lt_succ_of_le (hgreatest m q hq)) hthreshold
    cases hrun : runFresh steps code input tapeLength with
    | ok s =>
        left
        obtain ⟨hother, hzero⟩ := runFrom_of_finished hbelow (runFresh_eq_ok_iff.mp hrun)
        exact ⟨s, rfl, runFresh_eq_ok_iff.mpr hother, hzero⟩
    | error problem =>
        right
        rcases runFresh_eq_error hrun with rfl | ⟨failure, hfailure, rfl⟩
        · exact absurd hrun hends
        · refine ⟨_, rfl, runFresh_eq_fault_iff.mpr ⟨failure.onTape other.cells, ?_, ?_⟩⟩
          · apply runFrom_of_failed hbelow hfailure
            rintro position cursor words rfl
            exact hright position cursor words hrun
          · exact Fault.ofFailure_onTape code failure other.cells
  · intro hthreshold
    obtain ⟨m, position, cursor, hi, hfailed⟩ := exists_overrun hp (Nat.le_of_lt_succ hthreshold)
    exact ⟨m, position, cursor, Text.instruction?_eq_some_iff.mp hi,
      runFresh_eq_fault_iff.mpr ⟨_, hfailed, rfl⟩⟩

/-- The script `>+<<` needs two cells, on which it fails at the left end. -/
theorem runFresh_tapeLength_threshold_left :
    runFresh 4 (Text.ofString ">+<<") [] ⟨5, by decide⟩ ≠ .error .unfinished ∧
      (∀ position cursor words, runFresh 4 (Text.ofString ">+<<") [] ⟨5, by decide⟩ ≠
        .error (.fault (.pointerRange 5 position cursor words))) ∧
      ∃ threshold, 1 ≤ threshold ∧ threshold ≤ 5 ∧ ∀ other : TapeLength,
        (threshold ≤ other.cells → runFresh 4 (Text.ofString ">+<<") [] other =
          .error (.fault (.pointerRange (-1) 3 0 other.cells))) ∧
        (other.cells < threshold → ∃ (steps position cursor : Nat),
          (Text.ofString ">+<<")[position]? = some (.ofChar '>') ∧
            runFresh steps (Text.ofString ">+<<") [] other =
              .error (.fault (.pointerRange other.cells position cursor other.cells))) := by
  have hrun : runFresh 4 (Text.ofString ">+<<") [] ⟨5, by decide⟩ =
      .error (.fault (.pointerRange (-1) 3 0 5)) := rfl
  have hends : runFresh 4 (Text.ofString ">+<<") [] ⟨5, by decide⟩ ≠ .error .unfinished := by
    rw [hrun]
    nofun
  have hright (position cursor words : Int) : runFresh 4 (Text.ofString ">+<<") [] ⟨5, by decide⟩ ≠
      .error (.fault (.pointerRange 5 position cursor words)) := by
    rw [hrun]
    intro h
    cases h
  obtain ⟨threshold, hone, hfive, hthreshold⟩ :=
    runFresh_tapeLength_threshold (Text.ofString ">+<<") [] ⟨5, by decide⟩ 4 hends hright
  refine ⟨hends, hright, threshold, hone, hfive, fun other => ⟨fun hle => ?_, (hthreshold other).2⟩⟩
  rcases (hthreshold other).1 hle with ⟨s, hs, _⟩ | ⟨fault, hfault, hother⟩
  · rw [hrun] at hs
    cases hs
  · rw [hrun] at hfault
    cases hfault
    exact hother

end Script

end TapeMachine
