import TapeMachine.Proofs.Prefix

/-! Scripts one behind the other. A jump leads back to a loop that is still open, so a beginning that
returns with no loop open is never entered again. What stands behind it runs as it does alone from the
state that the beginning leaves, at positions that are further on by the length of the beginning. -/

namespace TapeMachine

/-- The report as it is of a source that has a number of further code points, and no newline among them,
in front of what the report is about. -/
def Fault.behind (source : Text) (distance : Nat) : Fault → Fault
  | .invalidInstruction symbol position place _ =>
    .invalidInstruction symbol (position + distance) ⟨place.line, place.column + distance⟩
      (source.excerpt (position + distance))
  | .pointerRange pointer position cursor tapeLength =>
    .pointerRange pointer (position + distance) cursor tapeLength
  | .unbalancedLoop position _ => .unbalancedLoop (position + distance) (source.excerpt (position + distance))
  | fault => fault

namespace Machine

/-! ### What is further on -/

/-- The state as it is behind a number of further code points: each open loop starts that much later. -/
def State.behind (distance : Nat) (s : State) : State :=
  { s with openLoops := s.openLoops.map (· + distance) }

def Configuration.behind (distance : Nat) (c : Configuration) : Configuration :=
  ⟨c.position + distance, c.state.behind distance⟩

def Failure.behind (distance : Nat) : Failure → Failure
  | .pointerRange pointer position cursor tapeLength =>
    .pointerRange pointer (position + distance) cursor tapeLength
  | .invalidInstruction symbol position => .invalidInstruction symbol (position + distance)
  | .unbalancedLoop position => .unbalancedLoop (position + distance)
  | failure => failure

def Outcome.behind (distance : Nat) : Outcome → Outcome :=
  .map (·.behind distance) (·.behind distance) (·.behind distance)

def Overrun.behind (distance : Nat) (o : Overrun) : Overrun :=
  { o with position := o.position + distance }

theorem Overrun.failure_behind (distance : Nat) (o : Overrun) :
    (o.behind distance).failure = o.failure.behind distance := by
  rw [failure, failure, Failure.behind, behind, Int.natCast_add]

/-- A command fails at the position where it stands and is else the same at every position. -/
theorem Store.perform_add {size : Nat} (s : Store size) (input : Array CodeUnit)
    (position distance : Nat) (command : Command) :
    s.perform input (position + distance) command =
      (s.perform input position command).mapError (·.behind distance) := by
  cases command with
  | right =>
      rw [perform, perform]
      split <;> rfl
  | left =>
      rw [perform, perform]
      split <;> rfl
  | increment | decrement | print | read => rfl

namespace Place

variable {size : Nat} {a b : Text} {input : Array CodeUnit} {p q : Place size} {m n : Nat}

def behind (distance : Nat) (p : Place size) : Place size :=
  ⟨p.position + distance, p.store, p.openLoops.map (· + distance)⟩

/-! ### Iterations in the front and in the back of a script -/

/-- What follows a script plays no part as long as the script goes on. -/
theorem Next.append (h : Next a input p q) : Next (a ++ b) input p q :=
  h.congr (List.getElem?_append_left h.lt_length) fun _ => rfl

theorem Reaches.append (h : Reaches a input p n q) : Reaches (a ++ b) input p n q := by
  induction h with
  | refl => exact .refl
  | next _ hr ih => exact .next ih hr.append

theorem getElem?_append_add (a b : Text) (i : Nat) : (a ++ b)[i + a.length]? = b[i]? := by
  rw [List.getElem?_append_right (Nat.le_add_left _ _), Nat.add_sub_cancel]

theorem instruction?_append_add (a b : Text) (i : Nat) :
    Text.instruction? (a ++ b) (i + a.length) = b.instruction? i := by
  rw [Text.instruction?, getElem?_append_add, Text.instruction?]

/-- The place behind a script, with no loop open, is the first place of what follows. -/
theorem behind_start (distance : Nat) (s : Store size) :
    behind distance ⟨0, s, []⟩ = ⟨distance, s, []⟩ := by
  rw [behind, Nat.zero_add, List.map_nil]

theorem behind_succ (distance i : Nat) (s : Store size) (loops : List Nat) :
    behind distance ⟨i + 1, s, loops⟩ = ⟨i + distance + 1, s, loops.map (· + distance)⟩ := by
  rw [behind, Nat.add_right_comm]

theorem Next.behind (h : Next b input p q) :
    Next (a ++ b) input (p.behind a.length) (q.behind a.length) := by
  cases h with
  | @perform i s s' loops command hi hs =>
      have hs' : s.perform input (i + a.length) command = .ok s' := by
        rw [Store.perform_add, hs]
        rfl
      rw [behind_succ]
      exact .perform command ((instruction?_append_add a b i).trans hi) hs'
  | @enter i s loops hi =>
      rw [behind_succ]
      exact .enter ((instruction?_append_add a b i).trans hi)
  | @leave i start s loops hi hzero =>
      rw [behind_succ]
      exact .leave ((instruction?_append_add a b i).trans hi) hzero
  | @resume i start s loops hi hzero =>
      rw [behind_succ]
      exact .resume ((instruction?_append_add a b i).trans hi) hzero

theorem Reaches.behind (h : Reaches b input p n q) :
    Reaches (a ++ b) input (p.behind a.length) n (q.behind a.length) := by
  induction h with
  | refl => exact .refl
  | next _ hr ih => exact .next ih hr.behind

theorem Fails.behind {failure : Failure} (h : Fails b input p failure) :
    Fails (a ++ b) input (p.behind a.length) (failure.behind a.length) := by
  cases h with
  | @overrun i s loops o command hi hs =>
      have hs' : s.perform input (i + a.length) command = .error (o.behind a.length) := by
        rw [Store.perform_add, hs]
        rfl
      rw [← Overrun.failure_behind]
      exact .overrun command ((instruction?_append_add a b i).trans hi) hs'
  | @unbalanced i s hi => exact .unbalanced ((instruction?_append_add a b i).trans hi)
  | @invalid i s loops c hc hi => exact .invalid ((getElem?_append_add a b i).trans hc) hi

/-- The back of a script does at each of its positions what it does alone. -/
theorem step_behind (a b : Text) (input : Array CodeUnit) (p : Place size) :
    step (a ++ b).toArray input (p.behind a.length).configuration =
      (step b.toArray input p.configuration).behind a.length := by
  rcases finishes_or_next_or_fails b input p with hend | ⟨q, hq⟩ | ⟨failure, hf⟩
  · have hend' : (a ++ b).length ≤ (p.behind a.length).position := by
      rw [List.length_append, Nat.add_comm]
      exact Nat.add_le_add_right hend a.length
    rw [step_eq_finished hend, step_eq_finished hend']
    rfl
  · rw [hq.step_eq, hq.behind.step_eq]
    rfl
  · rw [hf.step_eq, hf.behind.step_eq]
    rfl

theorem runFor_behind (a b : Text) (input : Array CodeUnit) (n : Nat) (p : Place size) :
    runFor (a ++ b).toArray input n (p.behind a.length).configuration =
      (runFor b.toArray input n p.configuration).behind a.length :=
  runFor_map (behind a.length) (fun _ => rfl) fun _ _ q _ => step_behind a b input q

/-- Before its last iteration a run has gone on. -/
theorem Reaches.exists_next (h : Reaches a input p n q) (hm : m < n) :
    ∃ r t, Reaches a input p m r ∧ Next a input r t := by
  induction h with
  | refl => exact absurd hm (Nat.not_lt_zero m)
  | next hq hr ih =>
      rcases Nat.lt_or_eq_of_le (Nat.le_of_lt_succ hm) with hlt | rfl
      · exact ih hlt
      · exact ⟨_, _, hq, hr⟩

end Place

variable {a b input : Text} {tapeLength : TapeLength} {m n : Nat} {s : State}

/-- A script that returns comes to its end from lower positions only, also where more follows. -/
theorem exists_arrives_append (b : Text)
    (h : runFrom n a input (.fresh tapeLength.cells) = .finished s) :
    ∃ m store loops, Arrives (a ++ b) input tapeLength m ⟨a.length, store, loops⟩ ∧
      s = store.toState loops := by
  obtain ⟨m, _, ⟨i, store, loops⟩, hp, hend, rfl⟩ := finishes_of_runFrom h
  obtain rfl : i = a.length := Nat.le_antisymm hp.position_le hend
  refine ⟨m, store, loops, ⟨Place.Reaches.append hp, ?before⟩, rfl⟩
  case before =>
    intro j hj q hq
    obtain ⟨r, t, hr, hnext⟩ := Place.Reaches.exists_next hp hj
    have hr' : Visits (a ++ b) input tapeLength j r := Place.Reaches.append hr
    have hsame := Outcome.unfinished.inj (hq.runFrom_eq.symm.trans hr'.runFrom_eq)
    have hposition : q.position = r.position := congrArg Configuration.position hsame
    rw [hposition]
    exact hnext.lt_length

/-- From where the beginning of a script ends with no loop open, the script does what the rest does
alone. -/
theorem Visits.runFrom_add {k : Nat} {store : Store tapeLength.cells}
    (h : Visits (a ++ b) input tapeLength m ⟨k, store, []⟩) (hk : a.length = k) (n : Nat) :
    runFrom (m + n) (a ++ b) input (.fresh tapeLength.cells) =
      (runFrom n b input (store.toState [])).behind k := by
  subst hk
  rw [runFrom_fresh, runFor_add, Place.Reaches.runFor_eq h, ← Place.behind_start, runFrom]
  exact Place.runFor_behind a b _ n ⟨0, store, []⟩

theorem ofFailure_behind {size : Nat} {input : Array CodeUnit} {store : Store size} {p : Place size}
    {failure : Failure} (ha : Place.Tracks (a ++ b) (⟨a.length, store, []⟩ : Place size))
    (hp : Place.Reaches b input ⟨0, store, []⟩ n p) (hfails : Place.Fails b input p failure) :
    Fault.ofFailure (a ++ b) (failure.behind a.length) =
      (Fault.ofFailure b failure).behind (a ++ b) a.length := by
  rw [← Place.behind_start] at ha
  cases hfails with
  | overrun => rfl
  | @unbalanced i s hi =>
      rw [Failure.behind, Fault.ofFailure, Fault.ofFailure, Fault.unbalancedLoopAt, Fault.unbalancedLoopAt,
        Fault.behind, Int.natCast_add]
  | @invalid i s loops c hc hi =>
      have hc' := (Place.getElem?_append_add a b i).trans hc
      have hclean : ∀ j < i, ¬ b.Offends j :=
        (hp.tracks (Place.tracks_of_position_zero b store)).clean
      have hclean' : ∀ j < i + a.length, ¬ Text.Offends (a ++ b) j := (hp.behind.tracks ha).clean
      have hplace := Text.locate_eq_of_clean hclean (Nat.le_of_lt (List.getElem?_eq_some_iff.mp hc).1)
      have hplace' := Text.locate_eq_of_clean hclean' (Nat.le_of_lt (List.getElem?_eq_some_iff.mp hc').1)
      rw [Failure.behind, Fault.ofFailure, Fault.ofFailure, Script.invalidInstructionAt_eq hc,
        Script.invalidInstructionAt_eq hc', hplace, hplace', Fault.behind, Int.natCast_add,
        Int.add_right_comm]

end Machine

namespace Script

open Machine

/-- A result with another state or another report; what has no end still has none. -/
def mapResult (onState : State → State) (onFault : Fault → Fault) :
    Except Problem State → Except Problem State
  | .ok s => .ok (onState s)
  | .error (.fault fault) => .error (.fault (onFault fault))
  | .error problem => .error problem

/-- The result as it is behind a number of further code points, in the source that holds them. -/
def resultBehind (source : Text) (distance : Nat) : Except Problem State → Except Problem State :=
  mapResult (·.behind distance) (·.behind source distance)

/-- How a script goes on behind a beginning that leaves a state with no loop open: as what follows does
alone from that state. -/
structure GoesOnFrom (a b input : Text) (tapeLength : TapeLength) (s : State) (m : Nat) : Prop where
  firstComes : FirstComes (a ++ b) input tapeLength a.length m ⟨a.length, s⟩
  /-- After as many further iterations the result is the same, with positions further on by the length of
  the beginning. -/
  runFresh_add : ∀ n, runFresh (m + n) (a ++ b) input tapeLength =
    resultBehind (a ++ b) a.length (conclude b (runFrom n b input s))
  unfinished_iff : (∀ n, runFresh n (a ++ b) input tapeLength = .error .unfinished) ↔
    ∀ n, conclude b (runFrom n b input s) = .error .unfinished
  /-- The beginning is never entered again. -/
  never_back : ∀ n, m ≤ n → ∀ c, runFrom n (a ++ b) input (.fresh tapeLength.cells) = .unfinished c →
    a.length ≤ c.position

variable {a b input : Text} {tapeLength : TapeLength} {m n : Nat} {s : State}

theorem mapResult_eq_unfinished_iff {onState : State → State} {onFault : Fault → Fault}
    {result : Except Problem State} :
    mapResult onState onFault result = .error .unfinished ↔ result = .error .unfinished := by
  cases result with
  | ok s => exact ⟨nofun, nofun⟩
  | error problem => cases problem <;> simp [mapResult]

theorem runFresh_unfinished_of_le (h : runFresh n a input tapeLength = .error .unfinished) (hmn : m ≤ n) :
    runFresh m a input tapeLength = .error .unfinished := by
  rw [runFresh_eq_unfinished_iff] at h ⊢
  obtain ⟨c, hc⟩ := h
  by_contra hended
  have hsame := runFrom_of_le rfl (fun c hc => hended ⟨c, hc⟩) hmn
  exact hended ⟨c, hsame.symm.trans hc⟩

theorem conclude_map {code code' : Text} {onConfiguration : Configuration → Configuration}
    {onState : State → State} {onFailure : Failure → Failure} {onFault : Fault → Fault} {o : Outcome}
    (h : ∀ failure, o = .failed failure →
      Fault.ofFailure code' (onFailure failure) = onFault (Fault.ofFailure code failure)) :
    conclude code' (o.map onConfiguration onState onFailure) =
      mapResult onState onFault (conclude code o) := by
  cases o with
  | finished s => rfl
  | unfinished c => rfl
  | failed failure => rw [Outcome.map, conclude, conclude, mapResult, h failure rfl]

theorem conclude_behind {k : Nat} {store : Store tapeLength.cells}
    (ha : Visits (a ++ b) input tapeLength m ⟨k, store, []⟩) (hk : a.length = k) (n : Nat) :
    conclude (a ++ b) ((runFrom n b input (store.toState [])).behind k) =
      resultBehind (a ++ b) k (conclude b (runFrom n b input (store.toState []))) := by
  subst hk
  apply conclude_map
  intro failure hrun
  have hrun' : runFor b.toArray input.codeUnits.toArray n
      (Place.configuration ⟨0, store, []⟩) = .failed failure := hrun
  obtain ⟨m, _, p, hp, hlast⟩ := Place.exists_last_of_runFor hrun' nofun
  exact ofFailure_behind ha.tracks hp (Place.fails_of_step_eq hlast)

/-- A script whose beginning returns with no loop open behaves from there on as the rest of it does alone,
from the state that the beginning leaves: it returns what the rest returns, fails as the rest fails, or
goes on for ever, with all positions further on by the length of the beginning. -/
theorem runFresh_append (a b input : Text) (tapeLength : TapeLength) (steps : Nat) (s : State)
    (hs : runFresh steps a input tapeLength = .ok s) (hloops : s.loopStarts = []) :
    ∃ m, GoesOnFrom a b input tapeLength s m := by
  obtain ⟨m, store, loops, ha, rfl⟩ := exists_arrives_append b (runFresh_eq_ok_iff.mp hs)
  obtain rfl : loops = [] := List.reverse_eq_nil_iff.mp hloops
  have hadd (n : Nat) : runFresh (m + n) (a ++ b) input tapeLength =
      resultBehind (a ++ b) a.length (conclude b (runFrom n b input (store.toState []))) := by
    rw [runFresh, ha.visits.runFrom_add rfl]
    exact conclude_behind ha.visits rfl n
  refine ⟨m, ha.firstComes, hadd, ?unfinished_iff, ?never_back⟩
  case unfinished_iff =>
    constructor
    · intro h n
      exact mapResult_eq_unfinished_iff.mp ((hadd n).symm.trans (h (m + n)))
    · intro h n
      refine runFresh_unfinished_of_le (n := m + n) ?_ (Nat.le_add_left n m)
      rw [hadd]
      exact mapResult_eq_unfinished_iff.mpr (h n)
  case never_back =>
    intro n hmn c hc
    obtain ⟨k, rfl⟩ := Nat.exists_eq_add_of_le hmn
    rw [ha.visits.runFrom_add rfl] at hc
    cases hrun : runFrom k b input (store.toState []) with
    | finished s =>
        rw [hrun] at hc
        cases hc
    | failed failure =>
        rw [hrun] at hc
        cases hc
    | unfinished c' =>
        rw [hrun] at hc
        cases hc
        exact Nat.le_add_left _ _

/-- Alone, `[-+]]` fails at position 4, behind `+>` at position 6. -/
theorem runFresh_append_unbalanced :
    runFresh 3 (Text.ofString "+>") [] ⟨2, by decide⟩ = .ok ⟨#[1, 0], 1, 0, [], #[]⟩ ∧
      (⟨#[1, 0], 1, 0, [], #[]⟩ : State).loopStarts = [] ∧
      ∃ m, GoesOnFrom (Text.ofString "+>") (Text.ofString "[-+]]") [] ⟨2, by decide⟩
          ⟨#[1, 0], 1, 0, [], #[]⟩ m ∧
        runFresh (m + 5) (Text.ofString "+>" ++ Text.ofString "[-+]]") [] ⟨2, by decide⟩ =
          .error (.fault (.unbalancedLoop 6 (Text.excerpt (Text.ofString "+>[-+]]") 6))) := by
  obtain ⟨m, hm⟩ := runFresh_append (Text.ofString "+>") (Text.ofString "[-+]]") [] ⟨2, by decide⟩ 3
    ⟨#[1, 0], 1, 0, [], #[]⟩ rfl rfl
  exact ⟨rfl, rfl, m, hm, (hm.runFresh_add 5).trans rfl⟩

end Script

end TapeMachine
