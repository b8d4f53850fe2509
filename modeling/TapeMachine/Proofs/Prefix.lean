import TapeMachine.Proofs.Bounds
import TapeMachine.Proofs.Excerpt

/-! Runs of the beginnings of a script. Up to the position at which a beginning is cut off it runs as the
whole script does. So a beginning that ends no later than the highest position the whole script comes to
returns the state in which the script first comes to its end, and a longer one ends as the whole script
does. What stands behind that position is never looked at. -/

namespace TapeMachine

open Text (newline)

/-- One text is another with a line that may end sooner. -/
def Text.CutFrom (cut whole : Text) : Prop :=
  ∃ front part back, newline ∉ part ∧ cut = front ++ newline :: back ∧
    whole = front ++ part ++ newline :: back

/-- One report is another with a line of its excerpt that may end sooner. -/
inductive Fault.CutFrom : Fault → Fault → Prop where
  | invalidInstruction {symbol : CodePoint} {position : Int} {place : Location} {cut whole : Text}
      (h : cut.CutFrom whole) :
      CutFrom (.invalidInstruction symbol position place cut) (.invalidInstruction symbol position place whole)
  | unbalancedLoop {position : Int} {cut whole : Text} (h : cut.CutFrom whole) :
      CutFrom (.unbalancedLoop position cut) (.unbalancedLoop position whole)

namespace Text

variable {code cut whole : Text} {i k : Nat}

theorem CutFrom.append_left (h : cut.CutFrom whole) (t : Text) : CutFrom (t ++ cut) (t ++ whole) := by
  obtain ⟨front, part, back, hpart, rfl, rfl⟩ := h
  exact ⟨t ++ front, part, back, hpart, by simp, by simp⟩

theorem CutFrom.append_right (h : cut.CutFrom whole) (t : Text) : CutFrom (cut ++ t) (whole ++ t) := by
  obtain ⟨front, part, back, hpart, rfl, rfl⟩ := h
  exact ⟨front, part, back ++ t, hpart, by simp, by simp⟩

theorem CutFrom.withHint (h : cut.CutFrom whole) (hint : Option Text) :
    CutFrom (cut.withHint hint) (whole.withHint hint) := by
  match hint with
  | none => exact h
  | some [] => exact h
  | some (c :: wording) => exact (h.append_right _).append_right _

/-! ### Places in a beginning of a text -/

theorem line_one_take_prefix (code : Text) (k : Nat) : line (code.take k) 1 <+: code.line 1 := by
  have hwhole : code.line 1 = (code.take k ++ code.drop k).takeWhile (· ≠ newline) := by
    rw [List.take_append_drop, line_one]
  rw [hwhole, line_one, List.takeWhile_append]
  split
  · exact (List.takeWhile_prefix _).trans (List.prefix_append _ _)
  · exact List.prefix_refl _

theorem exists_line_one_eq_append (code : Text) (k : Nat) :
    ∃ rest, newline ∉ rest ∧ code.line 1 = line (code.take k) 1 ++ rest := by
  obtain ⟨rest, hrest⟩ := line_one_take_prefix code k
  refine ⟨rest, ?_, hrest.symm⟩
  intro hmem
  have hline : newline ∈ code.takeWhile (· ≠ newline) := by
    rw [← line_one, ← hrest]
    exact List.mem_append_right _ hmem
  simpa using List.mem_takeWhile_imp hline

theorem excerpt_cutFrom (hclean : ∀ j < i, ¬ code.Offends j) (hi : i ≤ k) (hk : k ≤ code.length) :
    CutFrom (excerpt (code.take k) i) (code.excerpt i) := by
  obtain ⟨rest, hrest, hline⟩ := exists_line_one_eq_append code k
  have hplace : code.locate i = ⟨1, i + 1⟩ := locate_eq_of_clean hclean (Nat.le_trans hi hk)
  rw [excerpt_eq, excerpt_eq, locate_take hi hk, hplace, hline, ← List.append_assoc (gutter 1)]
  exact ⟨_, rest, _, hrest, rfl, rfl⟩

end Text

theorem Fault.CutFrom.message {cut whole : Fault} (h : cut.CutFrom whole) :
    cut.message.CutFrom whole.message := by
  cases h with
  | invalidInstruction h => exact ((h.append_left [newline]).append_left _).withHint _
  | unbalancedLoop h => exact ((h.append_left [newline]).append_left _).withHint _

namespace Machine

variable {code input : Text} {tapeLength : TapeLength} {n k : Nat} {p : Place tapeLength.cells}

/-! ### The way to a position -/

/-- A script first comes to a position with a configuration, after a number of iterations. -/
structure FirstComes (code input : Text) (tapeLength : TapeLength) (k n : Nat) (c : Configuration) :
    Prop where
  runFrom_eq : runFrom n code input (.fresh tapeLength.cells) = .unfinished c
  position_eq : c.position = k
  first : ∀ m < n, ∀ c', runFrom m code input (.fresh tapeLength.cells) = .unfinished c' →
    c'.position ≠ k

/-- A script comes to a place from lower positions only. -/
structure Arrives (code input : Text) (tapeLength : TapeLength) (n : Nat) (p : Place tapeLength.cells) :
    Prop where
  visits : Visits code input tapeLength n p
  before : ∀ m < n, ∀ q, Visits code input tapeLength m q → q.position < p.position

/-- No position is skipped on the way to a higher one. -/
theorem Visits.exists_arrives (h : Visits code input tapeLength n p) (hk : k ≤ p.position) :
    ∃ m q, Arrives code input tapeLength m q ∧ q.position = k := by
  obtain ⟨m, _, q, hq, hkq, hfirst⟩ := h.exists_first (P := fun q => k ≤ q.position) hk
  refine ⟨m, q, ⟨hq, ?before⟩, ?position⟩
  case before =>
    intro j hj r hr
    exact Nat.lt_of_lt_of_le (Nat.lt_of_not_le (hfirst j hj r hr)) hkq
  case position =>
    cases hq with
    | refl => exact (Nat.le_zero.mp hkq).symm
    | @next m r q hr hnext =>
        have hle := hnext.position_le (Visits.tracks hr).openLoops_eq
        have hlt := hfirst m (Nat.lt_succ_self m) r hr
        omega

theorem Arrives.firstComes (h : Arrives code input tapeLength n p) :
    FirstComes code input tapeLength p.position n p.configuration where
  runFrom_eq := h.visits.runFrom_eq
  position_eq := rfl
  first := by
    intro m hm c hc
    obtain ⟨q, hq, rfl⟩ := visits_of_runFrom hc
    exact Nat.ne_of_lt (h.before m hm q hq)

/-- As long as a run stays before a position, what stands from there on plays no part. -/
theorem runFrom_take (h : ∀ m < n, ∀ q, Visits code input tapeLength m q → q.position < k) :
    runFrom n (code.take k) input (.fresh tapeLength.cells) =
      runFrom n code input (.fresh tapeLength.cells) := by
  apply runFrom_congr
  intro m hm q hq
  exact Place.step_congr (List.getElem?_take_of_lt (h m hm q hq)) fun _ => rfl

/-- A beginning of a script returns with the state in which the script first comes to its end. -/
theorem Arrives.runFrom_take_eq_finished (h : Arrives code input tapeLength n p) :
    runFrom (n + 1) (code.take p.position) input (.fresh tapeLength.cells) =
      .finished p.configuration.state := by
  have hsame := runFrom_take h.before
  rw [h.visits.runFrom_eq] at hsame
  rw [runFrom_fresh] at hsame ⊢
  rw [runFor_succ, hsame]
  exact Place.step_eq_finished (List.length_take_le _ _)

/-- The report of a failure of a script is that of the script cut off behind it. -/
theorem ofFailure_take {failure : Failure} (hp : Visits code input tapeLength n p)
    (hfails : Place.Fails code input.codeUnits.toArray p failure) (hlt : p.position < k)
    (hk : k ≤ code.length) :
    Fault.ofFailure (code.take k) failure = Fault.ofFailure code failure ∨
      (Fault.ofFailure (code.take k) failure).CutFrom (Fault.ofFailure code failure) := by
  have hexcerpt := Text.excerpt_cutFrom hp.tracks.clean (Nat.le_of_lt hlt) hk
  cases hfails with
  | overrun => exact Or.inl rfl
  | unbalanced => exact Or.inr (.unbalancedLoop hexcerpt)
  | @invalid i s loops c hc hi =>
      right
      have hc' : (code.take k)[i]? = some c := (List.getElem?_take_of_lt hlt).trans hc
      rw [Fault.ofFailure, Fault.ofFailure, Script.invalidInstructionAt_eq hc,
        Script.invalidInstructionAt_eq hc', Text.locate_take (Nat.le_of_lt hlt) hk]
      exact .invalidInstruction hexcerpt

/-! ### What has been printed and read on the way -/

theorem Place.Next.grows {size : Nat} {input : Array CodeUnit} {p q : Place size}
    (h : Place.Next code input p q) :
    p.configuration.state.output.toList <+: q.configuration.state.output.toList ∧
      p.configuration.state.cursor ≤ q.configuration.state.cursor := by
  have hcursor := h.cursor_eq
  have hprinted := h.printed_eq
  simp only [Place.configuration, Store.toState]
  constructor
  · rw [hprinted]
    split
    · simp
    · exact List.prefix_refl _
  · omega

theorem Visits.grows {m : Nat} {q : Place tapeLength.cells} (hp : Visits code input tapeLength m p)
    (hq : Visits code input tapeLength n q) (hmn : m ≤ n) :
    p.configuration.state.output.toList <+: q.configuration.state.output.toList ∧
      p.configuration.state.cursor ≤ q.configuration.state.cursor := by
  induction hq with
  | refl =>
      obtain rfl : m = 0 := Nat.le_zero.mp hmn
      cases hp
      exact ⟨List.prefix_refl _, Int.le_refl _⟩
  | @next n q r hq hnext ih =>
      rcases Nat.lt_or_eq_of_le hmn with hlt | rfl
      · obtain ⟨houtput, hcursor⟩ := ih (Nat.le_of_lt_succ hlt)
        exact ⟨houtput.trans hnext.grows.1, Int.le_trans hcursor hnext.grows.2⟩
      · have hr : Visits code input tapeLength (n + 1) r := .next hq hnext
        have hsame := hp.runFrom_eq.symm.trans hr.runFrom_eq
        rw [Outcome.unfinished.inj hsame]
        exact ⟨List.prefix_refl _, Int.le_refl _⟩

end Machine

namespace Script

open Machine

/-- Two runs fail with reports that differ in the excerpt at most, and with it in the message, or both
have not ended. -/
inductive FailsAlike : Except Problem State → Except Problem State → Prop where
  | same (fault : Fault) : FailsAlike (.error (.fault fault)) (.error (.fault fault))
  | cut {cut whole : Fault} (hfault : cut.CutFrom whole) (hmessage : cut.message.CutFrom whole.message) :
      FailsAlike (.error (.fault cut)) (.error (.fault whole))
  | unfinished : FailsAlike (.error .unfinished) (.error .unfinished)

/-- How the beginnings of a script run, up to a threshold and beyond it. -/
structure PrefixLaw (code input : Text) (tapeLength : TapeLength) (threshold : Nat) : Prop where
  le_length : threshold ≤ code.length
  /-- A beginning up to the threshold returns with the state in which the script first comes to its end. -/
  returns : ∀ k ≤ threshold, ∃ n c, FirstComes code input tapeLength k n c ∧
    ∃ steps, runFresh steps (code.take k) input tapeLength = .ok c.state
  /-- The threshold is the highest position to which the script comes. -/
  highest : ∀ n c, runFrom n code input (.fresh tapeLength.cells) = .unfinished c → c.position ≤ threshold
  /-- A longer beginning never returns, and ends as the script does. -/
  failsAlike : ∀ k, threshold < k → k ≤ code.length → ∀ steps,
    FailsAlike (runFresh steps (code.take k) input tapeLength) (runFresh steps code input tapeLength)
  /-- A failure is at the threshold. Only a move off the tape can be at a lower position, to which the
  script has jumped back. -/
  position_of_fault : ∀ steps fault, runFresh steps code input tapeLength = .error (.fault fault) →
    (∃ symbol place excerpt, fault = .invalidInstruction symbol threshold place excerpt) ∨
      (∃ excerpt, fault = .unbalancedLoop threshold excerpt) ∨
      ∃ o : Overrun, o.position ≤ threshold ∧ fault = o.fault
  /-- A longer beginning has printed and read what a shorter one has, and maybe more. -/
  grows : ∀ k k', k ≤ k' → k' ≤ threshold → ∀ steps steps' s s',
    runFresh steps (code.take k) input tapeLength = .ok s →
    runFresh steps' (code.take k') input tapeLength = .ok s' →
      s.output.toList <+: s'.output.toList ∧ s.cursor ≤ s'.cursor
  /-- What stands behind the threshold is never looked at. -/
  unread : ∀ code' : Text, code'.take (threshold + 1) = code.take (threshold + 1) → ∀ n,
    runFrom n code' input (.fresh tapeLength.cells) = runFrom n code input (.fresh tapeLength.cells)

variable {code input : Text} {tapeLength : TapeLength} {n k : Nat} {p : Place tapeLength.cells}

theorem eq_of_runFresh_take (hp : Arrives code input tapeLength n p) {steps : Nat} {s : State}
    (h : runFresh steps (code.take p.position) input tapeLength = .ok s) : s = p.configuration.state := by
  have hfinished := hp.runFrom_take_eq_finished
  exact Outcome.finished.inj (runFrom_unique (runFresh_eq_ok_iff.mp h) nofun hfinished nofun)

theorem failsAlike_take (hbefore : ∀ m q, Visits code input tapeLength m q → q.position < k)
    (hk : k ≤ code.length) (steps : Nat) :
    FailsAlike (runFresh steps (code.take k) input tapeLength) (runFresh steps code input tapeLength) := by
  have hsame := runFrom_take (n := steps) fun m _ q hq => hbefore m q hq
  rw [runFresh, runFresh, hsame]
  cases hrun : runFrom steps code input (.fresh tapeLength.cells) with
  | finished s =>
      obtain ⟨m, _, q, hq, hend, _⟩ := finishes_of_runFrom hrun
      have hlt := hbefore m q hq
      omega
  | failed failure =>
      obtain ⟨m, _, q, hq, hfails⟩ := fails_of_runFrom hrun
      rcases ofFailure_take hq hfails (hbefore m q hq) hk with hsame | hcut
      · rw [conclude, conclude, hsame]
        exact .same _
      · exact .cut hcut hcut.message
  | unfinished c => exact .unfinished

/-- A failure is reported at the highest position to which the script comes, or is a move off the tape at
that position or at an earlier one. -/
theorem fault_cases_of_greatest (hp : Visits code input tapeLength n p)
    (hgreatest : ∀ m q, Visits code input tapeLength m q → q.position ≤ p.position) {steps : Nat}
    {fault : Fault} (h : runFresh steps code input tapeLength = .error (.fault fault)) :
    (∃ symbol place excerpt, fault = .invalidInstruction symbol p.position place excerpt) ∨
      (∃ excerpt, fault = .unbalancedLoop p.position excerpt) ∨
      ∃ o : Overrun, o.position ≤ p.position ∧ fault = o.fault := by
  obtain ⟨failure, hfailure, rfl⟩ := runFresh_eq_fault_iff.mp h
  obtain ⟨m, _, q, hq, hfails⟩ := fails_of_runFrom hfailure
  have hle := hgreatest m q hq
  have hat (hoffends : code.Offends q.position) : q.position = p.position := by
    apply Nat.le_antisymm hle
    apply Nat.le_of_not_lt
    intro hlt
    exact hp.tracks.clean q.position hlt hoffends
  rcases hfails.cases_offends hq.tracks with
    ⟨_, o, hposition, rfl⟩ | ⟨hoffends, _, rfl⟩ | ⟨hoffends, c, hc, _, rfl⟩
  · exact Or.inr (Or.inr ⟨o, hposition ▸ hle, rfl⟩)
  · rw [hat hoffends]
    exact Or.inr (Or.inl ⟨_, rfl⟩)
  · left
    rw [Fault.ofFailure, invalidInstructionAt_eq hc, hat hoffends]
    exact ⟨_, _, _, rfl⟩

/-- The beginnings of a script that return are those up to a threshold, the highest position to which the
script comes. Each of them returns with the state in which the script first comes to its end, so that its
output begins with the outputs of the shorter ones, and all longer beginnings end as the script does. -/
theorem exists_prefixLaw (code input : Text) (tapeLength : TapeLength) :
    ∃ threshold, PrefixLaw code input tapeLength threshold := by
  obtain ⟨n, p, hp, hgreatest⟩ := exists_greatest (fun p => p.position)
    fun n p (hp : Visits code input tapeLength n p) => hp.position_le
  refine ⟨p.position, hp.position_le, ?returns, ?highest, ?failsAlike, ?position_of_fault, ?grows, ?unread⟩
  case returns =>
    intro k hk
    obtain ⟨m, q, hq, rfl⟩ := hp.exists_arrives hk
    exact ⟨m, q.configuration, hq.firstComes, m + 1,
      runFresh_eq_ok_iff.mpr hq.runFrom_take_eq_finished⟩
  case highest =>
    intro m c hc
    obtain ⟨q, hq, rfl⟩ := visits_of_runFrom hc
    exact hgreatest m q hq
  case failsAlike =>
    intro k hlt hk
    exact failsAlike_take (fun m q hq => Nat.lt_of_le_of_lt (hgreatest m q hq) hlt) hk
  case position_of_fault =>
    intro steps fault h
    exact fault_cases_of_greatest hp hgreatest h
  case grows =>
    intro k k' hkk' hk' steps steps' s s' hs hs'
    obtain ⟨m, q, hq, rfl⟩ := hp.exists_arrives (Nat.le_trans hkk' hk')
    obtain ⟨m', q', hq', rfl⟩ := hp.exists_arrives hk'
    rw [eq_of_runFresh_take hq hs, eq_of_runFresh_take hq' hs']
    apply hq.visits.grows hq'.visits
    apply Nat.le_of_not_lt
    intro hlt
    exact Nat.not_le_of_lt (hq.before m' hlt q' hq'.visits) hkk'
  case unread =>
    intro code' hsame m
    apply runFrom_congr
    intro j _ q hq
    have hlt : q.position < p.position + 1 := Nat.lt_succ_of_le (hgreatest j q hq)
    refine Place.step_congr ?_ fun _ => rfl
    rw [← List.getElem?_take_of_lt hlt, hsame, List.getElem?_take_of_lt hlt]

/-- On a tape of three cells the third pass through the loop of `+[>+]` fails at position 2, while the
beginning `+[>+` returns. -/
theorem not_threshold_at_overrun :
    ¬ ∃ threshold ≤ (Text.ofString "+[>+]").length,
      (∀ k ≤ (Text.ofString "+[>+]").length,
        (∃ steps s, runFresh steps ((Text.ofString "+[>+]").take k) [] ⟨3, by decide⟩ = .ok s) ↔
          k ≤ threshold) ∧
      ∀ steps pointer position cursor tapeLength,
        runFresh steps (Text.ofString "+[>+]") [] ⟨3, by decide⟩ =
          .error (.fault (.pointerRange pointer position cursor tapeLength)) → position = threshold := by
  rintro ⟨threshold, _, hreturns, hposition⟩
  have hfour : 4 ≤ threshold := (hreturns 4 (by decide)).mp ⟨5, _, rfl⟩
  have htwo : (2 : Int) = threshold := hposition 9 3 2 0 3 rfl
  omega

end Script

end TapeMachine
