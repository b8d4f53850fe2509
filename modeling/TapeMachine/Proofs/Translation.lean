import TapeMachine.Proofs.Sequence

/-! Runs further along the tape. A script never comes to cells in front of the one it starts on, unless it
would leave its own tape on the left. So behind a row of moves to the right, on a tape with as many more
cells, a script ends as it does alone: its cells stand behind as many zeros, and its pointer and all its
positions are further on. At the right end the two tapes agree to the cell. -/

namespace TapeMachine

/-- The length with a number of cells in front. -/
def TapeLength.withFront (k : Nat) (tapeLength : TapeLength) : TapeLength :=
  ⟨k + tapeLength.cells, Nat.add_pos_right k tapeLength.positive⟩

/-- The report as it is on a tape with a number of cells in front. -/
def Fault.along (k : Nat) : Fault → Fault
  | .pointerRange pointer position cursor tapeLength =>
    .pointerRange (pointer + k) position cursor (tapeLength + k)
  | fault => fault

namespace Machine

/-! ### Cells in front -/

/-- The state on a tape with a number of zeros in front. -/
def State.along (k : Nat) (s : State) : State :=
  { s with tape := Array.replicate k 0 ++ s.tape, pointer := s.pointer + k }

def Failure.along (k : Nat) : Failure → Failure
  | .pointerRange pointer position cursor tapeLength =>
    .pointerRange (pointer + k) position cursor (k + tapeLength)
  | failure => failure

def Configuration.along (k : Nat) (c : Configuration) : Configuration :=
  ⟨c.position, c.state.along k⟩

def Outcome.along (k : Nat) : Outcome → Outcome :=
  .map (·.along k) (·.along k) (·.along k)

namespace Store

variable {size : Nat} {s t : Store size} {input : Array CodeUnit} {position : Nat} {command : Command}

def along (k : Nat) (s : Store size) : Store (k + size) where
  cells := Vector.replicate k (0 : Int) ++ s.cells
  pointer := Fin.natAdd k s.pointer
  cursor := s.cursor
  printed := s.printed

theorem along_fresh (k : Nat) (tapeLength : TapeLength) :
    (fresh tapeLength).along k =
      (fresh (tapeLength.withFront k)).moveTo ⟨k, Nat.lt_add_of_pos_right tapeLength.positive⟩ := by
  rw [along, fresh, fresh, Vector.replicate_append_replicate]
  rfl

theorem toState_along (k : Nat) (s : Store size) (loops : List Nat) :
    (s.along k).toState loops = (s.toState loops).along k := by
  have hpointer : ((k + s.pointer.val : Nat) : Int) = s.pointer.val + k := by omega
  simp only [toState, along, State.along, Fin.val_natAdd, hpointer, Vector.toArray_append,
    Vector.toArray_replicate]

theorem current_along (k : Nat) (s : Store size) : (s.along k).current = s.current := by
  have hlt : k + s.pointer.val < k + size := Nat.add_lt_add_left s.pointer.isLt k
  have hget : (Vector.replicate k (0 : Int) ++ s.cells)[k + s.pointer.val] = s.cells[s.pointer.val] := by
    rw [Vector.getElem_append_right hlt (Nat.le_add_right k s.pointer.val)]
    simp only [Nat.add_sub_cancel_left]
  exact hget

theorem write_along (k : Nat) (s : Store size) (value : Int) :
    (s.along k).write value = (s.write value).along k := by
  have hcells : (Vector.replicate k (0 : Int) ++ s.cells).set (k + s.pointer.val) value
      (Nat.add_lt_add_left s.pointer.isLt k) =
        Vector.replicate k (0 : Int) ++ s.cells.set s.pointer.val value s.pointer.isLt := by
    rw [Vector.set_append_right _ (Nat.le_add_right _ _)]
    simp only [Nat.add_sub_cancel_left]
  simp only [write, along, Fin.val_natAdd, hcells]

/-- A command that succeeds does the same with cells in front. -/
theorem perform_along (k : Nat) (h : s.perform input position command = .ok t) :
    (s.along k).perform input position command = .ok (t.along k) := by
  cases command with
  | right =>
      rw [perform] at h
      split at h
      · next hlt =>
          cases h
          exact dif_pos (Nat.add_lt_add_left hlt k)
      · cases h
  | left =>
      rw [perform] at h
      split at h
      · next hpos =>
          cases h
          have hpos' : 0 < (s.along k).pointer.val := Nat.add_pos_right k hpos
          rw [perform, if_pos hpos']
          simp only [along, Except.ok.injEq, mk.injEq, true_and, and_true, Fin.ext_iff,
            Fin.val_natAdd]
          omega
      · cases h
  | increment | decrement =>
      cases h
      rw [perform, current_along, write_along]
  | print =>
      cases h
      rw [perform, current_along]
      rfl
  | read =>
      cases h
      have hunit : (s.along k).nextUnit input = s.nextUnit input := rfl
      rw [perform, hunit, write_along]
      rfl

theorem perform_right_along (k : Nat) {o : Overrun} (h : s.perform input position .right = .error o) :
    (s.along k).perform input position .right = .error ⟨o.pointer + k, o.position, o.cursor, k + size⟩ := by
  rw [perform] at h
  split at h
  · cases h
  · next hlast =>
      cases h
      have hlast' : ¬ (s.along k).pointer.val + 1 < k + size := by
        simp only [along, Fin.val_natAdd]
        omega
      rw [perform, dif_neg hlast']
      simp only [along, Fin.val_natAdd, Except.error.injEq, Overrun.mk.injEq, and_true]
      omega

end Store

namespace Place

variable {size : Nat} {code : Text} {input : Array CodeUnit} {p q : Place size}

def along (k : Nat) (p : Place size) : Place (k + size) :=
  ⟨p.position, p.store.along k, p.openLoops⟩

theorem configuration_along (k : Nat) (p : Place size) :
    (p.along k).configuration = p.configuration.along k := by
  rw [configuration, configuration, along, Store.toState_along, Configuration.along]

theorem Next.along (k : Nat) (h : Next code input p q) : Next code input (p.along k) (q.along k) := by
  cases h with
  | perform command hi hs => exact .perform command hi (Store.perform_along k hs)
  | enter hi => exact .enter hi
  | leave hi hzero => exact .leave hi ((Store.current_along k _).trans hzero)
  | resume hi hzero => exact .resume hi fun h => hzero ((Store.current_along k _).symm.trans h)

/-- Unless it is a move off the left end, a failure is the same with cells in front. -/
theorem Fails.along (k : Nat) {failure : Failure} (h : Fails code input p failure)
    (hleft : ∀ position cursor words, failure ≠ .pointerRange (-1) position cursor words) :
    Fails code input (p.along k) (failure.along k) := by
  cases h with
  | @overrun i s loops o command hi hs =>
      rcases Store.perform_eq_error hs with ⟨_, rfl⟩ | ⟨rfl, rfl⟩
      · exact absurd rfl (hleft i s.cursor size)
      · exact .overrun .right hi (Store.perform_right_along k hs)
  | unbalanced hi => exact .unbalanced hi
  | invalid hc hi => exact .invalid hc hi

theorem step_along (k : Nat) (hleft : ∀ position cursor words,
    step code.toArray input p.configuration ≠ .failed (.pointerRange (-1) position cursor words)) :
    step code.toArray input (p.along k).configuration =
      (step code.toArray input p.configuration).along k := by
  rcases finishes_or_next_or_fails code input p with hend | ⟨q, hq⟩ | ⟨failure, hf⟩
  · have hend' : code.length ≤ (p.along k).position := hend
    rw [step_eq_finished hend, step_eq_finished hend', along, Store.toState_along]
    rfl
  · rw [hq.step_eq, (hq.along k).step_eq, configuration_along]
    rfl
  · rw [hf.step_eq] at hleft ⊢
    have hright (position cursor : Int) (words : Nat) : failure ≠ .pointerRange (-1) position cursor words :=
      fun h => hleft position cursor words (congrArg Outcome.failed h)
    rw [(hf.along k hright).step_eq]
    rfl

/-- A run that does not leave its tape on the left goes the same way with cells in front. -/
theorem runFor_along (k n : Nat) (hleft : ∀ position cursor words,
    runFor code.toArray input n p.configuration ≠ .failed (.pointerRange (-1) position cursor words)) :
    runFor code.toArray input n (p.along k).configuration =
      (runFor code.toArray input n p.configuration).along k := by
  refine runFor_map (Place.along k) (configuration_along k) fun m hm q hq => step_along k ?_
  intro position cursor words hstep
  have hlast : runFor code.toArray input (m + 1) p.configuration =
      .failed (.pointerRange (-1) position cursor words) := by
    rw [runFor_succ, hq.runFor_eq]
    exact hstep
  exact hleft position cursor words (runFor_of_le hlast nofun hm)

end Place

/-! ### Moves to the right in front of a script -/

/-- The script behind a row of moves to the right. -/
def behindMoves (k : Nat) (code : Text) : Text :=
  List.replicate k (.ofChar '>') ++ code

variable {code input : Text} {tapeLength : TapeLength}

theorem visits_of_le (code input : Text) (tapeLength : TapeLength) {j k : Nat} (hj : j ≤ k) :
    Visits (behindMoves k code) input (tapeLength.withFront k) j
      ⟨j, (Store.fresh (tapeLength.withFront k)).moveTo
        ⟨j, Nat.lt_of_le_of_lt hj (Nat.lt_add_of_pos_right tapeLength.positive)⟩, []⟩ := by
  induction j with
  | zero => exact .refl
  | succ j ih =>
      have hi : (behindMoves k code).instruction? j = some .right := by
        rw [Text.instruction?_eq_some_iff, behindMoves,
          List.getElem?_append_left (by rwa [List.length_replicate]), List.getElem?_replicate,
          if_pos (Nat.lt_of_succ_le hj)]
        rfl
      have hlt : j + 1 < k + tapeLength.cells :=
        Nat.lt_of_le_of_lt hj (Nat.lt_add_of_pos_right tapeLength.positive)
      exact .next (ih (Nat.le_of_succ_le hj)) (.perform .right hi (dif_pos hlt))

/-- The moves lead to the cell that has as many cells in front. -/
theorem visits_behindMoves (code input : Text) (tapeLength : TapeLength) (k : Nat) :
    Visits (behindMoves k code) input (tapeLength.withFront k) k
      ⟨k, (Store.fresh tapeLength).along k, []⟩ := by
  rw [Store.along_fresh]
  exact visits_of_le code input tapeLength (Nat.le_refl k)

theorem runFrom_along (k n : Nat)
    (hleft : ∀ position cursor words, runFrom n code input (.fresh tapeLength.cells) ≠
      .failed (.pointerRange (-1) position cursor words)) :
    runFrom n code input (((Store.fresh tapeLength).along k).toState []) =
      (runFrom n code input (.fresh tapeLength.cells)).along k := by
  rw [runFrom_fresh] at hleft ⊢
  exact Place.runFor_along k n hleft

end Machine

/-! ### Results further along the tape -/

theorem Fault.ofFailure_along (source : Text) (failure : Machine.Failure) (k : Nat) :
    ofFailure source (failure.along k) = (ofFailure source failure).along k := by
  cases failure with
  | pointerRange pointer position cursor tapeLength =>
      rw [Machine.Failure.along, ofFailure, ofFailure, along, Int.natCast_add, Int.add_comm k]
  | invalidInstruction symbol position =>
      have hsame := Script.map_invalidInstructionAt (Fault.along k) (fun _ _ _ _ => rfl) rfl rfl
      exact (hsame source position).symm
  | missingItem | missingCell | notAddressable | unbalancedLoop => rfl

namespace Script

open Machine

variable {code input : Text} {tapeLength : TapeLength} {k steps : Nat}

theorem conclude_along (code : Text) (k : Nat) (o : Outcome) :
    conclude code (o.along k) = mapResult (·.along k) (·.along k) (conclude code o) :=
  conclude_map fun failure _ => Fault.ofFailure_along code failure k

/-- Behind as many moves to the right as its tape has more cells in front, a script ends as it does
alone, further on and further along, unless it leaves its tape on the left. -/
theorem runFresh_behindMoves (hleft : ∀ position cursor words, runFresh steps code input tapeLength ≠
    .error (.fault (.pointerRange (-1) position cursor words))) :
    runFresh (k + steps) (behindMoves k code) input (tapeLength.withFront k) =
      resultBehind (behindMoves k code) k
        (mapResult (·.along k) (·.along k) (runFresh steps code input tapeLength)) := by
  have hmoves := visits_behindMoves code input tapeLength k
  have hlength : (List.replicate k (CodePoint.ofChar '>')).length = k := List.length_replicate
  have hleft' (position cursor : Int) (words : Nat) : runFrom steps code input (.fresh tapeLength.cells) ≠
      .failed (.pointerRange (-1) position cursor words) := fun h =>
    hleft position cursor words (runFresh_eq_fault_iff.mpr ⟨_, h, rfl⟩)
  calc runFresh (k + steps) (behindMoves k code) input (tapeLength.withFront k)
      = conclude (behindMoves k code)
          ((runFrom steps code input (((Store.fresh tapeLength).along k).toState [])).behind k) :=
        congrArg (conclude (behindMoves k code)) (Visits.runFrom_add hmoves hlength steps)
    _ = resultBehind (behindMoves k code) k
          (conclude code (runFrom steps code input (((Store.fresh tapeLength).along k).toState []))) :=
        conclude_behind hmoves hlength steps
    _ = resultBehind (behindMoves k code) k
          (mapResult (·.along k) (·.along k) (runFresh steps code input tapeLength)) := by
        rw [runFrom_along k steps hleft', conclude_along, runFresh]

theorem tapeLength_of_pointerRange {pointer position cursor words : Int}
    (h : runFresh steps code input tapeLength =
      .error (.fault (.pointerRange pointer position cursor words))) : words = tapeLength.cells := by
  obtain ⟨failure, hfailure, hfault⟩ := runFresh_eq_fault_iff.mp h
  obtain ⟨m, _, p, _, hfails⟩ := fails_of_runFrom hfailure
  cases hfails with
  | overrun command _ hs =>
      rcases Store.perform_eq_error hs with ⟨_, rfl⟩ | ⟨_, rfl⟩
      · cases hfault
        rfl
      · cases hfault
        rfl
  | unbalanced => cases hfault
  | invalid hc _ =>
      rw [Fault.ofFailure, invalidInstructionAt_eq hc] at hfault
      cases hfault

/-- Behind a row of moves to the right, on a tape with as many more cells, a script returns what it
returns alone with zeros in front of its tape, its pointer and its open loops further on. It reports what
stops it alone at the position that is further on, and where it leaves its tape on the right it leaves the
longer tape on the right. -/
theorem runFresh_translation (code input : Text) (tapeLength : TapeLength) (k steps : Nat) :
    (∀ s, runFresh steps code input tapeLength = .ok s →
      runFresh (k + steps) (behindMoves k code) input (tapeLength.withFront k) =
        .ok ⟨Array.replicate k 0 ++ s.tape, s.pointer + k, s.cursor, s.openLoops.map (· + k), s.output⟩) ∧
    (∀ symbol position place excerpt, runFresh steps code input tapeLength =
        .error (.fault (.invalidInstruction symbol position place excerpt)) →
      runFresh (k + steps) (behindMoves k code) input (tapeLength.withFront k) =
        .error (.fault (.invalidInstruction symbol (position + k) ⟨place.line, place.column + k⟩
          ((behindMoves k code).excerpt (position + k))))) ∧
    (∀ position excerpt, runFresh steps code input tapeLength =
        .error (.fault (.unbalancedLoop position excerpt)) →
      runFresh (k + steps) (behindMoves k code) input (tapeLength.withFront k) =
        .error (.fault (.unbalancedLoop (position + k) ((behindMoves k code).excerpt (position + k))))) ∧
    ∀ position cursor words, runFresh steps code input tapeLength =
        .error (.fault (.pointerRange tapeLength.cells position cursor words)) →
      runFresh (k + steps) (behindMoves k code) input (tapeLength.withFront k) =
        .error (.fault (.pointerRange (tapeLength.cells + k) (position + k) cursor
          (tapeLength.cells + k))) := by
  refine ⟨fun s h => ?_, fun symbol position place excerpt h => ?_, fun position excerpt h => ?_,
    fun position cursor words h => ?_⟩
  · rw [runFresh_behindMoves (by rw [h]; nofun), h]
    rfl
  · rw [runFresh_behindMoves (by rw [h]; nofun), h]
    rfl
  · rw [runFresh_behindMoves (by rw [h]; nofun), h]
    rfl
  · have hleft (position' cursor' words' : Int) : runFresh steps code input tapeLength ≠
        .error (.fault (.pointerRange (-1) position' cursor' words')) := by
      rw [h]
      intro heq
      injection heq with heq
      injection heq with heq
      injection heq with hpointer
      omega
    obtain rfl := tapeLength_of_pointerRange h
    rw [runFresh_behindMoves hleft, h]
    rfl

/-- The loop in `+[>+]` runs off the right end of three cells at position 2, and behind two moves off that
of five cells at position 4. -/
theorem runFresh_translation_right_end :
    runFresh 11 (Text.ofString "+[>+]") [] ⟨3, by decide⟩ = .error (.fault (.pointerRange 3 2 0 3)) ∧
      runFresh 13 (Text.ofString ">>+[>+]") [] ⟨5, by decide⟩ =
        .error (.fault (.pointerRange 5 4 0 5)) :=
  ⟨rfl, (runFresh_translation (Text.ofString "+[>+]") [] ⟨3, by decide⟩ 2 11).2.2.2 2 0 3 rfl⟩

end Script

end TapeMachine
