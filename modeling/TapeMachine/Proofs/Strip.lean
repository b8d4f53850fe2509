import TapeMachine.Proofs.LoopStack

/-! Scripts with everything taken out that is no instruction. A run looks at each position from the first
one on before it looks at a later one, so as long as it has met instructions only, nothing has been taken
out of what it has seen. Stripping a script therefore changes a run only by sparing it the report of an
invalid instruction. -/

namespace TapeMachine

namespace Text

variable {code : Text} {i : Nat} {c : CodePoint}

theorem isSome_of_mem_strip (h : c ∈ code.strip) : (Instruction.ofCodePoint? c).isSome = true :=
  (List.mem_filter.mp h).2

theorem strip_append (t u : Text) : strip (t ++ u) = t.strip ++ u.strip :=
  List.filter_append t u

theorem strip_eq_self (h : ∀ c ∈ code, Instruction.ofCodePoint? c ≠ none) : code.strip = code := by
  apply List.filter_eq_self.mpr
  intro c hc
  exact Option.isSome_iff_ne_none.mpr (h c hc)

/-- Up to and including a position before which only instructions stand, and at which one stands if
anything does, stripping moves nothing. -/
theorem getElem?_strip (h : ∀ j ≤ i, ∀ c, code[j]? = some c → Instruction.ofCodePoint? c ≠ none) :
    code.strip[i]? = code[i]? := by
  have hfront : strip (code.take (i + 1)) = code.take (i + 1) := by
    apply strip_eq_self
    intro c hc
    obtain ⟨j, hj, hjc⟩ := List.mem_take_iff_getElem.mp hc
    have hbound : j < i + 1 ∧ j < code.length := Nat.lt_min.mp hj
    exact h j (Nat.le_of_lt_succ hbound.1) c (List.getElem?_eq_some_iff.mpr ⟨hbound.2, hjc⟩)
  have hsplit : code.strip = code.take (i + 1) ++ strip (code.drop (i + 1)) := by
    calc code.strip = strip (code.take (i + 1) ++ code.drop (i + 1)) := by rw [List.take_append_drop]
      _ = code.take (i + 1) ++ strip (code.drop (i + 1)) := by rw [strip_append, hfront]
  by_cases hi : i < code.length
  · have hlength : i < (code.take (i + 1)).length := by
      rw [List.length_take]
      omega
    rw [hsplit, List.getElem?_append_left hlength, List.getElem?_take_of_lt (Nat.lt_succ_self i)]
  · have hlength : code.length ≤ i := Nat.le_of_not_lt hi
    have hdrop : code.drop (i + 1) = [] := List.drop_eq_nil_of_le (Nat.le_succ_of_le hlength)
    rw [hsplit, hdrop, List.take_of_length_le (Nat.le_succ_of_le hlength)]
    simp [strip]

end Text

namespace Machine

variable {code input : Text} {tapeLength : TapeLength} {m n : Nat} {p : Place tapeLength.cells}

/-- What stands at a position before that of a place on the way of a run is an instruction. -/
theorem Visits.ofCodePoint?_ne_none (h : Visits code input tapeLength m p) {j : Nat} {c : CodePoint}
    (hj : j < p.position) (hc : code[j]? = some c) : Instruction.ofCodePoint? c ≠ none := by
  intro hnone
  exact h.tracks.clean j hj (Or.inl ⟨c, hc, hnone⟩)

/-- A run that has not met an invalid instruction has seen nothing that stripping takes out or moves. -/
theorem runFrom_strip
    (h : ∀ c i, runFrom n code input (.fresh tapeLength.cells) ≠ .failed (.invalidInstruction c i)) :
    runFrom n code.strip input (.fresh tapeLength.cells) =
      runFrom n code input (.fresh tapeLength.cells) := by
  apply runFrom_congr
  intro m hm p hp
  refine Place.step_congr (Text.getElem?_strip ?_) fun _ => rfl
  intro j hj c hc
  rcases Nat.lt_or_eq_of_le hj with hlt | rfl
  · exact hp.ofCodePoint?_ne_none hlt hc
  · intro hnone
    have hfails : Place.Fails code input.codeUnits.toArray p (.invalidInstruction c p.position) :=
      .invalid hc hnone
    exact h c p.position (runFrom_of_le (hp.runFrom_succ_of_fails hfails) nofun hm)

end Machine

namespace Script

open Machine

/-- Two runs have the same result, the first of one script and the second of another. Only the report
of a closing symbol without an opening one shows an excerpt of the script of its own run. -/
inductive SameButExcerpt (code code' : Text) : Except Problem State → Except Problem State → Prop where
  | same (result : Except Problem State) : SameButExcerpt code code' result result
  | unbalancedLoop (i : Nat) : SameButExcerpt code code'
      (.error (.fault (.unbalancedLoop i (code.excerpt i))))
      (.error (.fault (.unbalancedLoop i (code'.excerpt i))))

variable {code input : Text} {tapeLength : TapeLength} {steps : Nat}

theorem runFresh_strip_ne_invalidInstruction (symbol : CodePoint) (position : Int) (place : Location)
    (excerpt : Text) :
    runFresh steps code.strip input tapeLength ≠
      .error (.fault (.invalidInstruction symbol position place excerpt)) := by
  intro h
  obtain ⟨hmem, hnone⟩ := mem_of_runFresh h
  have hsome := Text.isSome_of_mem_strip hmem
  rw [hnone] at hsome
  cases hsome

/-- The same outcome of the machine is reported alike for any two scripts, unless it is the failure at
an invalid instruction. -/
theorem conclude_sameButExcerpt {o : Outcome} (code code' : Text)
    (h : ∀ c i, o ≠ .failed (.invalidInstruction c i)) :
    SameButExcerpt code code' (conclude code o) (conclude code' o) := by
  cases o with
  | finished s => exact .same _
  | unfinished c => exact .same _
  | failed failure =>
      cases failure with
      | pointerRange | missingItem | missingCell | notAddressable => exact .same _
      | invalidInstruction c i => exact absurd rfl (h c i)
      | unbalancedLoop i => exact .unbalancedLoop i

theorem strip_eq_self_of_runFresh {s : State} (h : runFresh steps code input tapeLength = .ok s) :
    code.strip = code := by
  obtain ⟨m, _, p, hp, hend, _⟩ := finishes_of_runFrom (runFresh_eq_ok_iff.mp h)
  apply Text.strip_eq_self
  intro c hc
  obtain ⟨j, hj⟩ := List.mem_iff_getElem?.mp hc
  have hlt : j < code.length := (List.getElem?_eq_some_iff.mp hj).1
  exact hp.ofCodePoint?_ne_none (Nat.lt_of_lt_of_le hlt hend) hj

/-- A stripped script never meets an invalid instruction. After any number of iterations it stands as the
script itself does, in the same state, with the same fault, or with no end yet, unless the script has met
an invalid instruction by then. A script that runs to its end has nothing to be stripped. -/
theorem runFresh_strip (code input : Text) (tapeLength : TapeLength) :
    (∀ steps symbol position place excerpt, runFresh steps code.strip input tapeLength ≠
      .error (.fault (.invalidInstruction symbol position place excerpt))) ∧
    (∀ steps,
      (∃ symbol position place excerpt, runFresh steps code input tapeLength =
        .error (.fault (.invalidInstruction symbol position place excerpt))) ∨
      SameButExcerpt code.strip code (runFresh steps code.strip input tapeLength)
        (runFresh steps code input tapeLength)) ∧
    ∀ steps s, runFresh steps code input tapeLength = .ok s → code.strip = code := by
  refine ⟨fun steps => runFresh_strip_ne_invalidInstruction, fun steps => ?_,
    fun steps s => strip_eq_self_of_runFresh⟩
  by_cases hinvalid : ∃ c i,
      runFrom steps code input (.fresh tapeLength.cells) = .failed (.invalidInstruction c i)
  · obtain ⟨c, i, hfailed⟩ := hinvalid
    obtain ⟨m, _, p, _, hfails⟩ := fails_of_runFrom hfailed
    cases hfails with
    | invalid hc hnone =>
        exact Or.inl ⟨_, _, _, _,
          runFresh_eq_fault_iff.mpr ⟨_, hfailed, invalidInstructionAt_eq hc⟩⟩
  · right
    have hne (c : CodePoint) (i : Nat) :
        runFrom steps code input (.fresh tapeLength.cells) ≠ .failed (.invalidInstruction c i) :=
      fun h => hinvalid ⟨c, i, h⟩
    rw [runFresh, runFresh, runFrom_strip hne]
    exact conclude_sameButExcerpt code.strip code hne

end Script

end TapeMachine
