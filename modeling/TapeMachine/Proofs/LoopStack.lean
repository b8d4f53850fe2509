import Mathlib.Data.List.TakeWhile
import TapeMachine.Proofs.Run

/-! The open loops of a run and the brackets of its script. Wherever a run stands, its open loops are the
openings that static matching leaves open before that position, however often it has jumped back; so a
closing symbol always resumes the loop it belongs to. As jumps only go back and every loop is entered,
no position is skipped: a run comes to the first position at which no script can go on, or stops
before it for another reason. -/

namespace TapeMachine

/-- A position at which a run cannot go on: something else than an instruction stands there, or a
closing symbol to which no opening one belongs. -/
def Text.Offends (code : Text) (i : Nat) : Prop :=
  (∃ c, code[i]? = some c ∧ Instruction.ofCodePoint? c = none) ∨ code.UnmatchedClosing i

namespace Machine

/-- The open loops are those of the text before the position, and nothing there stops a run. -/
structure Place.Tracks {size : Nat} (code : Text) (p : Place size) : Prop where
  openLoops_eq : p.openLoops = code.openBefore p.position
  clean : ∀ i < p.position, ¬ code.Offends i

namespace Place

variable {size : Nat} {code : Text} {input : Array CodeUnit} {p q : Place size}

theorem not_offends_of_instruction {i : Nat} {instruction : Instruction}
    (hi : code.instruction? i = some instruction) (hclosing : instruction ≠ .closing) :
    ¬ code.Offends i := by
  rintro (⟨c, hc, hnone⟩ | hunmatched)
  · rw [Text.instruction?, hc, Option.bind_some, hnone] at hi
    cases hi
  · rw [hunmatched.1] at hi
    exact hclosing (Option.some.inj hi).symm

theorem not_offends_of_openBefore {i start : Nat} {outer : List Nat}
    (hi : code.instruction? i = some .closing) (hopen : code.openBefore i = start :: outer) :
    ¬ code.Offends i := by
  rintro (⟨c, hc, hnone⟩ | hunmatched)
  · rw [Text.instruction?, hc, Option.bind_some, hnone] at hi
    cases hi
  · rw [Text.unmatchedClosing_iff, hopen] at hunmatched
    cases hunmatched.2

/-- A position from which a run goes on stops no run. -/
theorem Next.not_offends (h : Next code input p q) (hp : p.Tracks code) : ¬ code.Offends p.position := by
  cases h with
  | perform command hi _ => exact not_offends_of_instruction hi command.instruction_ne_closing
  | enter hi => exact not_offends_of_instruction hi (by decide)
  | leave hi _ => exact not_offends_of_openBefore hi hp.openLoops_eq.symm
  | resume hi _ => exact not_offends_of_openBefore hi hp.openLoops_eq.symm

theorem Next.lt_length (h : Next code input p q) : p.position < code.length := by
  cases h with
  | perform _ hi _ => exact Text.lt_length_of_instruction? hi
  | enter hi => exact Text.lt_length_of_instruction? hi
  | leave hi _ => exact Text.lt_length_of_instruction? hi
  | resume hi _ => exact Text.lt_length_of_instruction? hi

theorem Next.openLoops_eq (h : Next code input p q) (hp : p.openLoops = code.openBefore p.position) :
    q.openLoops = code.openBefore q.position := by
  cases h with
  | perform command hi _ =>
      have hopening := command.instruction_ne_opening
      have hclosing := command.instruction_ne_closing
      rw [Text.openBefore_other (by simpa [hi] using hopening) (by simpa [hi] using hclosing)]
      exact hp
  | enter hi => rw [Text.openBefore_opening hi, ← hp]
  | leave hi _ => rw [Text.openBefore_closing hi, ← hp, List.tail_cons]
  | resume _ _ => exact (Text.openBefore_resume hp.symm).symm

/-- An iteration moves on to the next position or back. -/
theorem Next.position_le (h : Next code input p q) (hp : p.openLoops = code.openBefore p.position) :
    q.position ≤ p.position + 1 := by
  cases h with
  | perform | enter | leave => exact Nat.le_refl _
  | @resume i start _ _ _ _ =>
      have hmem : start ∈ code.openBefore i := hp ▸ List.mem_cons_self
      exact Nat.succ_le_succ (Nat.le_of_lt (Text.lt_of_mem_openBefore hmem))

theorem Next.tracks (h : Next code input p q) (hp : p.Tracks code) : q.Tracks code := by
  refine ⟨h.openLoops_eq hp.openLoops_eq, fun i hi => ?_⟩
  rcases Nat.lt_or_eq_of_le (Nat.le_of_lt_succ (Nat.lt_of_lt_of_le hi (h.position_le hp.openLoops_eq)))
    with hlt | rfl
  · exact hp.clean i hlt
  · exact h.not_offends hp

theorem Reaches.tracks {n : Nat} (h : Reaches code input p n q) (hp : p.Tracks code) : q.Tracks code := by
  induction h with
  | refl => exact hp
  | next _ hr ih => exact hr.tracks ih

/-- At the first position nothing has been opened and nothing stopped a run. -/
theorem tracks_of_position_zero (code : Text) (s : Store size) : Tracks code ⟨0, s, []⟩ :=
  ⟨rfl, fun i hi => absurd hi (Nat.not_lt_zero i)⟩

end Place

theorem Visits.tracks {code input : Text} {tapeLength : TapeLength} {n : Nat}
    {p : Place tapeLength.cells} (h : Visits code input tapeLength n p) : p.Tracks code :=
  Place.Reaches.tracks h (Place.tracks_of_position_zero code _)

theorem Visits.position_le {code input : Text} {tapeLength : TapeLength} {n : Nat}
    {p : Place tapeLength.cells} (h : Visits code input tapeLength n p) : p.position ≤ code.length := by
  induction h with
  | refl => exact Nat.zero_le _
  | next hq hr ih =>
      have hlt := hr.lt_length
      exact Nat.le_trans (hr.position_le (Visits.tracks hq).openLoops_eq) hlt

theorem Visits.loopStarts_eq {code input : Text} {tapeLength : TapeLength} {n : Nat}
    {p : Place tapeLength.cells} (h : Visits code input tapeLength n p) :
    p.configuration.state.loopStarts = (code.openBefore p.position).reverse := by
  rw [← h.tracks.openLoops_eq]
  rfl

/-- How the open loops of a configuration that a script comes to follow the brackets of the script. -/
structure FollowsMatching (code input : Text) (tapeLength : TapeLength) (c : Configuration) : Prop where
  /-- The loops are listed in the order of the text. -/
  increasing : c.state.loopStarts.Pairwise (· < ·)
  /-- They are what matching leaves open in the text before the position. -/
  mem_loopStarts_iff :
    ∀ start, start ∈ c.state.loopStarts ↔ Text.UnmatchedOpening (code.take c.position) start
  not_unmatchedClosing : ∀ stop, ¬ Text.UnmatchedClosing (code.take c.position) stop
  /-- At a closing symbol the last of them, if there is one, is what the symbol belongs to. -/
  matches_last : code[c.position]? = some (.ofChar ']') →
    ∀ start, c.state.loopStarts.getLast? = some start →
      code.Matches start c.position ∧ ∀ other, code.Matches other c.position → other = start
  /-- A jump leads just behind the opening symbol and changes nothing else. -/
  jump : ∀ c', step code.toArray input.codeUnits.toArray c = .unfinished c' →
    c'.position ≠ c.position + 1 →
      ∃ start, code.Matches start c.position ∧ c'.position = start + 1 ∧ c'.state = c.state
  /-- At each visit of the position the same loops are open. -/
  revisit : ∀ m c', runFrom m code input (.fresh tapeLength.cells) = .unfinished c' →
    c'.position = c.position → c'.state.loopStarts = c.state.loopStarts

/-- Wherever a run stands, its open loops are those that matching leaves open before. -/
theorem followsMatching_of_runFrom (code input : Text) (tapeLength : TapeLength) (n : Nat)
    (c : Configuration) (h : runFrom n code input (.fresh tapeLength.cells) = .unfinished c) :
    FollowsMatching code input tapeLength c := by
  obtain ⟨p, hp, rfl⟩ := visits_of_runFrom h
  have htracks := hp.tracks
  constructor
  case increasing =>
    rw [hp.loopStarts_eq, List.pairwise_reverse]
    exact Text.pairwise_openBefore code p.position
  case mem_loopStarts_iff =>
    intro start
    rw [hp.loopStarts_eq, List.mem_reverse]
    exact Text.unmatchedOpening_take_iff.symm
  case not_unmatchedClosing =>
    intro stop hstop
    obtain ⟨hlt, hunmatched⟩ := Text.unmatchedClosing_take_iff.mp hstop
    exact htracks.clean stop hlt (Or.inr hunmatched)
  case matches_last =>
    intro hclosing start hlast
    rw [hp.loopStarts_eq, List.getLast?_reverse, List.head?_eq_some_iff] at hlast
    have hmatch : code.Matches start p.position :=
      Text.matches_iff.mpr ⟨Text.instruction?_eq_some_iff.mpr hclosing, hlast⟩
    exact ⟨hmatch, fun other hother => hother.unique hmatch⟩
  case jump =>
    intro c' hstep hjump
    obtain ⟨q, hq, rfl⟩ := Place.next_of_step_eq hstep
    cases hq with
    | perform | enter | leave => exact absurd rfl hjump
    | @resume i start s loops hi _ =>
        exact ⟨start, Text.matches_iff.mpr ⟨hi, loops, htracks.openLoops_eq.symm⟩, rfl, rfl⟩
  case revisit =>
    intro m c' h' hposition
    obtain ⟨q, hq, rfl⟩ := visits_of_runFrom h'
    have hposition : q.position = p.position := hposition
    rw [hp.loopStarts_eq, hq.loopStarts_eq, hposition]

/-- Before its only jump the script `++[[-]` has both loops open. -/
theorem followsMatching_nested :
    runFrom 5 (Text.ofString "++[[-]") [] (.fresh 1) = .unfinished ⟨5, ⟨#[1], 0, 0, [3, 2], #[]⟩⟩ ∧
      FollowsMatching (Text.ofString "++[[-]") [] ⟨1, by decide⟩ ⟨5, ⟨#[1], 0, 0, [3, 2], #[]⟩⟩ :=
  ⟨rfl, followsMatching_of_runFrom _ _ _ 5 _ rfl⟩

/-! ### The first position at which a run cannot go on -/

namespace Place

variable {size : Nat} {code : Text} {input : Array CodeUnit} {p : Place size}

/-- A run fails at a position that stops it, or by a move at one that does not. -/
theorem Fails.cases_offends {failure : Failure} (h : Fails code input p failure) (hp : p.Tracks code) :
    (¬ code.Offends p.position ∧ ∃ o : Overrun, o.position = p.position ∧ failure = o.failure) ∨
      (code.Offends p.position ∧ code.instruction? p.position = some .closing ∧
        failure = .unbalancedLoop p.position) ∨
      (code.Offends p.position ∧ ∃ c, code[p.position]? = some c ∧ Instruction.ofCodePoint? c = none ∧
        failure = .invalidInstruction c p.position) := by
  cases h with
  | @overrun i s loops o command hi hs =>
      have hposition : o.position = i := by
        rcases Store.perform_eq_error hs with ⟨_, rfl⟩ | ⟨_, rfl⟩ <;> rfl
      exact Or.inl ⟨not_offends_of_instruction hi command.instruction_ne_closing, o, hposition, rfl⟩
  | unbalanced hi =>
      have hunmatched := Text.unmatchedClosing_iff.mpr ⟨hi, hp.openLoops_eq.symm⟩
      exact Or.inr (Or.inl ⟨Or.inr hunmatched, hi, rfl⟩)
  | @invalid i s loops c hc hi =>
      exact Or.inr (Or.inr ⟨Or.inl ⟨c, hc, hi⟩, c, hc, hi, rfl⟩)

end Place

end Machine

namespace Text

variable {code : Text} {p : Nat}

theorem Offends.lt_length (h : code.Offends p) : p < code.length := by
  rcases h with ⟨c, hc, _⟩ | hunmatched
  · exact (List.getElem?_eq_some_iff.mp hc).1
  · exact lt_length_of_instruction? hunmatched.1

theorem newline_notMem_take (h : ∀ i < p, ¬ code.Offends i) : newline ∉ code.take p := by
  intro hmem
  obtain ⟨i, hi, hnewline⟩ := List.mem_take_iff_getElem.mp hmem
  have hc : code[i]? = some newline := by
    rw [List.getElem?_eq_some_iff]
    exact ⟨by omega, hnewline⟩
  exact h i (by omega) (Or.inl ⟨newline, hc, by decide⟩)

/-- A text whose part before a position holds only instructions has that part on its first line. -/
theorem locate_eq_of_clean (h : ∀ i < p, ¬ code.Offends i) (hp : p ≤ code.length) :
    code.locate p = ⟨1, p + 1⟩ := by
  have hnewline := newline_notMem_take h
  have hbefore : code.before p = code.take p := by
    rw [before, Offset.cut_ofNat hp]
  have hwhole : (code.take p).reverse.takeWhile (· ≠ newline) = (code.take p).reverse := by
    rw [List.takeWhile_eq_self_iff]
    intro c hc
    simp only [ne_eq, decide_eq_true_eq]
    rintro rfl
    exact hnewline (List.mem_reverse.mp hc)
  have hstart : lastLineStart (code.take p) = 0 := by
    rw [lastLineStart, hwhole, List.length_reverse, Nat.sub_self]
  rw [locate, hbefore, hstart, List.count_eq_zero_of_not_mem hnewline]
  simp

end Text

namespace Script

open Machine

variable {code : Text}

/-- A script in which nothing stops a run ends with the same loops open on every tape and input, or at
an end of the tape. -/
theorem runFresh_of_clean (h : ∀ i, ¬ code.Offends i) (steps : Nat) (input : Text)
    (tapeLength : TapeLength) :
    (∀ s, runFresh steps code input tapeLength = .ok s →
      s.loopStarts = (code.openBefore code.length).reverse) ∧
    ∀ problem, runFresh steps code input tapeLength = .error problem →
      problem = .unfinished ∨ ∃ o : Overrun, problem = .fault o.fault := by
  constructor
  · intro s hs
    obtain ⟨m, _, p, hp, hend, rfl⟩ := finishes_of_runFrom (runFresh_eq_ok_iff.mp hs)
    have hposition : p.position = code.length := Nat.le_antisymm hp.position_le hend
    rw [← hposition]
    exact hp.loopStarts_eq
  · intro problem hproblem
    rcases runFresh_eq_error hproblem with hunfinished | ⟨failure, hfailure, rfl⟩
    · exact Or.inl hunfinished
    · obtain ⟨m, _, p, hp, hfails⟩ := fails_of_runFrom hfailure
      rcases hfails.cases_offends hp.tracks with ⟨_, o, _, rfl⟩ | ⟨hoffends, _⟩ | ⟨hoffends, _⟩
      · exact Or.inr ⟨o, rfl⟩
      · exact absurd hoffends (h p.position)
      · exact absurd hoffends (h p.position)

/-- A run comes no further than the first position that stops it. -/
theorem runFresh_of_offends {p : Nat} (hp : code.Offends p) (hfirst : ∀ i < p, ¬ code.Offends i)
    (steps : Nat) (input : Text) (tapeLength : TapeLength) :
    (∀ s, runFresh steps code input tapeLength ≠ .ok s) ∧
    ∀ problem, runFresh steps code input tapeLength = .error problem →
      problem = .unfinished ∨ (∃ o : Overrun, o.position < p ∧ problem = .fault o.fault) ∨
      (code[p]? = some (.ofChar ']') ∧ problem = .fault (.unbalancedLoop p (code.excerpt p))) ∨
      ∃ c, code[p]? = some c ∧ c ≠ .ofChar ']' ∧
        problem = .fault (.invalidInstruction c p ⟨1, p + 1⟩ (code.excerpt p)) := by
  have hbound {n : Nat} {q : Place tapeLength.cells} (hq : Visits code input tapeLength n q) :
      q.position ≤ p := by
    by_contra hlt
    exact hq.tracks.clean p (Nat.lt_of_not_le hlt) hp
  constructor
  · intro s hs
    obtain ⟨m, _, q, hq, hend, _⟩ := finishes_of_runFrom (runFresh_eq_ok_iff.mp hs)
    exact Nat.lt_irrefl p (Nat.lt_of_lt_of_le hp.lt_length (Nat.le_trans hend (hbound hq)))
  · intro problem hproblem
    rcases runFresh_eq_error hproblem with hunfinished | ⟨failure, hfailure, rfl⟩
    · exact Or.inl hunfinished
    · right
      obtain ⟨m, _, q, hq, hfails⟩ := fails_of_runFrom hfailure
      have hat (hoffends : code.Offends q.position) : q.position = p := by
        rcases Nat.lt_or_eq_of_le (hbound hq) with hlt | heq
        · exact absurd hoffends (hfirst q.position hlt)
        · exact heq
      rcases hfails.cases_offends hq.tracks with
        ⟨hclean, o, hposition, rfl⟩ | ⟨hoffends, hclosing, rfl⟩ | ⟨hoffends, c, hc, hnone, rfl⟩
      · left
        have hne : q.position ≠ p := fun heq => hclean (heq ▸ hp)
        exact ⟨o, hposition ▸ Nat.lt_of_le_of_ne (hbound hq) hne, rfl⟩
      · right; left
        rw [hat hoffends] at hclosing ⊢
        exact ⟨Text.instruction?_eq_some_iff.mp hclosing, rfl⟩
      · right; right
        rw [hat hoffends] at hc ⊢
        refine ⟨c, hc, ?_, ?_⟩
        · rintro rfl
          cases hnone
        · rw [Fault.ofFailure, invalidInstructionAt_eq hc,
            Text.locate_eq_of_clean hfirst (Nat.le_of_lt hp.lt_length)]

/-- How a run can end is decided by a scan of the script for its first position that stops runs. Without
one a run returns with the unmatched openings left open, on every tape and input, or leaves the tape.
With one it never returns: it leaves the tape before that position or reports what stands there. -/
theorem runFresh_outcome_of_scan (code : Text) :
    ((∀ i, ¬ code.Offends i) →
      ∃ starts : List Nat, starts.Pairwise (· < ·) ∧
        (∀ start, start ∈ starts ↔ code.UnmatchedOpening start) ∧
        ∀ steps input tapeLength,
          (∀ s, runFresh steps code input tapeLength = .ok s → s.loopStarts = starts) ∧
          ∀ problem, runFresh steps code input tapeLength = .error problem →
            problem = .unfinished ∨ ∃ o : Overrun, problem = .fault o.fault) ∧
    ∀ p, code.Offends p → (∀ i < p, ¬ code.Offends i) →
      ∀ steps input tapeLength,
        (∀ s, runFresh steps code input tapeLength ≠ .ok s) ∧
        ∀ problem, runFresh steps code input tapeLength = .error problem →
          problem = .unfinished ∨ (∃ o : Overrun, o.position < p ∧ problem = .fault o.fault) ∨
          (code[p]? = some (.ofChar ']') ∧ problem = .fault (.unbalancedLoop p (code.excerpt p))) ∨
          ∃ c, code[p]? = some c ∧ c ≠ .ofChar ']' ∧
            problem = .fault (.invalidInstruction c p ⟨1, p + 1⟩ (code.excerpt p)) := by
  refine ⟨fun h => ⟨(code.openBefore code.length).reverse, ?_, fun start => ?_, ?_⟩, fun p hp hfirst => ?_⟩
  · rw [List.pairwise_reverse]
    exact Text.pairwise_openBefore code code.length
  · rw [List.mem_reverse]
    exact Text.unmatchedOpening_iff.symm
  · exact runFresh_of_clean h
  · exact runFresh_of_offends hp hfirst

end Script

end TapeMachine
