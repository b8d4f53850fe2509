import Mathlib.Data.Nat.Find
import TapeMachine.Proofs.Bracket
import TapeMachine.Proofs.Store
import TapeMachine.Script

/-! Runs from a fresh tape. Every configuration that a script reaches is a place: a position, a store and
the positions of the open loops. From a place a run can go on in four ways, fail in three, and finish;
what holds of all places of a run is proved from these cases by one induction. -/

namespace TapeMachine.Machine

theorem runFor_succ (code : Array CodePoint) (input : Array CodeUnit) (n : Nat) (c : Configuration) :
    runFor code input (n + 1) c =
      match runFor code input n c with
      | .unfinished c' => step code input c'
      | other => other := by
  have hone (c' : Configuration) : runFor code input 1 c' = step code input c' := by
    rw [runFor]
    cases step code input c' <;> rfl
  rw [runFor_add]
  cases runFor code input n c with
  | unfinished c' => exact hone c'
  | finished s => rfl
  | failed failure => rfl

/-- The outcome with a change made to what it holds. -/
def Outcome.map (onConfiguration : Configuration → Configuration) (onState : State → State)
    (onFailure : Failure → Failure) : Outcome → Outcome
  | .finished s => .finished (onState s)
  | .failed failure => .failed (onFailure failure)
  | .unfinished c => .unfinished (onConfiguration c)

theorem Outcome.map_id (o : Outcome) : o.map id id id = o := by
  cases o <;> rfl

/-- A configuration that a script can bring about. -/
structure Place (size : Nat) where
  position : Nat
  store : Store size
  openLoops : List Nat

namespace Place

/-- The place as the machine sees it. -/
def configuration {size : Nat} (p : Place size) : Configuration :=
  ⟨p.position, p.store.toState p.openLoops⟩

def start (tapeLength : TapeLength) : Place tapeLength.cells :=
  ⟨0, .fresh tapeLength, []⟩

variable {size : Nat}

/-- The iterations after which a run goes on. -/
inductive Next (code : Text) (input : Array CodeUnit) : Place size → Place size → Prop where
  | perform {i : Nat} {s s' : Store size} {loops : List Nat} (command : Command)
      (hi : code.instruction? i = some command.instruction)
      (hs : s.perform input i command = .ok s') : Next code input ⟨i, s, loops⟩ ⟨i + 1, s', loops⟩
  | enter {i : Nat} {s : Store size} {loops : List Nat} (hi : code.instruction? i = some .opening) :
      Next code input ⟨i, s, loops⟩ ⟨i + 1, s, i :: loops⟩
  | leave {i start : Nat} {s : Store size} {loops : List Nat}
      (hi : code.instruction? i = some .closing) (hzero : s.current = 0) :
      Next code input ⟨i, s, start :: loops⟩ ⟨i + 1, s, loops⟩
  | resume {i start : Nat} {s : Store size} {loops : List Nat}
      (hi : code.instruction? i = some .closing) (hzero : s.current ≠ 0) :
      Next code input ⟨i, s, start :: loops⟩ ⟨start + 1, s, start :: loops⟩

/-- The iterations at which a run fails. -/
inductive Fails (code : Text) (input : Array CodeUnit) : Place size → Failure → Prop where
  | overrun {i : Nat} {s : Store size} {loops : List Nat} {o : Overrun} (command : Command)
      (hi : code.instruction? i = some command.instruction)
      (hs : s.perform input i command = .error o) : Fails code input ⟨i, s, loops⟩ o.failure
  | unbalanced {i : Nat} {s : Store size} (hi : code.instruction? i = some .closing) :
      Fails code input ⟨i, s, []⟩ (.unbalancedLoop i)
  | invalid {i : Nat} {s : Store size} {loops : List Nat} {c : CodePoint} (hc : code[i]? = some c)
      (hi : Instruction.ofCodePoint? c = none) :
      Fails code input ⟨i, s, loops⟩ (.invalidInstruction c i)

variable {code : Text} {input : Array CodeUnit} {p q : Place size}

section Step

variable {i : Nat} {s : State}

theorem step_command {command : Command} (hi : code.instruction? i = some command.instruction) :
    step code.toArray input ⟨i, s⟩ = Configuration.advance ⟨i, s⟩ (command.action input i) := by
  obtain ⟨c, hc, hc'⟩ := Text.instruction?_eq_some.mp hi
  simp only [step, List.getElem?_toArray, hc, hc']
  cases command <;> rfl

theorem step_opening (hi : code.instruction? i = some .opening) :
    step code.toArray input ⟨i, s⟩ = Configuration.openLoop ⟨i, s⟩ := by
  obtain ⟨c, hc, hc'⟩ := Text.instruction?_eq_some.mp hi
  simp only [step, List.getElem?_toArray, hc, hc']

theorem step_closing (hi : code.instruction? i = some .closing) :
    step code.toArray input ⟨i, s⟩ = Configuration.closeLoop ⟨i, s⟩ := by
  obtain ⟨c, hc, hc'⟩ := Text.instruction?_eq_some.mp hi
  simp only [step, List.getElem?_toArray, hc, hc']

theorem closeLoop_toState (s : Store size) (start : Nat) (loops : List Nat) :
    Configuration.closeLoop ⟨i, s.toState (start :: loops)⟩ =
      if s.current = 0 then .unfinished ⟨i + 1, s.toState loops⟩
      else .unfinished ⟨start + 1, s.toState (start :: loops)⟩ := by
  have hcell := s.cell_toState (start :: loops)
  simp only [Configuration.closeLoop, Store.toState] at hcell ⊢
  rw [hcell]

end Step

theorem Next.step_eq (h : Next code input p q) :
    step code.toArray input p.configuration = .unfinished q.configuration := by
  cases h with
  | perform command hi hs =>
      rw [configuration, step_command hi, Configuration.advance, command.action_toState, hs]
      rfl
  | enter hi =>
      rw [configuration, step_opening hi]
      rfl
  | leave hi hzero =>
      rw [configuration, step_closing hi, closeLoop_toState, if_pos hzero]
      rfl
  | resume hi hzero =>
      rw [configuration, step_closing hi, closeLoop_toState, if_neg hzero]
      rfl

theorem Fails.step_eq {failure : Failure} (h : Fails code input p failure) :
    step code.toArray input p.configuration = .failed failure := by
  cases h with
  | overrun command hi hs =>
      rw [configuration, step_command hi, Configuration.advance, command.action_toState, hs]
  | unbalanced hi =>
      rw [configuration, step_closing hi]
      rfl
  | invalid hc hi => simp only [configuration, step, List.getElem?_toArray, hc, hi]

theorem step_eq_finished (h : code.length ≤ p.position) :
    step code.toArray input p.configuration = .finished (p.store.toState p.openLoops) := by
  have hnone : code[p.position]? = none := List.getElem?_eq_none h
  simp only [configuration, step, List.getElem?_toArray, hnone]

/-- At every place a run finishes, goes on or fails. -/
theorem finishes_or_next_or_fails (code : Text) (input : Array CodeUnit) (p : Place size) :
    code.length ≤ p.position ∨ (∃ q, Next code input p q) ∨ ∃ failure, Fails code input p failure := by
  obtain ⟨i, s, loops⟩ := p
  cases hc : code[i]? with
  | none => exact Or.inl (List.getElem?_eq_none_iff.mp hc)
  | some c =>
      right
      cases hi : Instruction.ofCodePoint? c with
      | none => exact Or.inr ⟨_, .invalid hc hi⟩
      | some instruction =>
          have hinstruction := Text.instruction?_eq_some.mpr ⟨c, hc, hi⟩
          have hcommand (command : Command)
              (h : code.instruction? i = some command.instruction) :
              (∃ q, Next code input ⟨i, s, loops⟩ q) ∨ ∃ failure, Fails code input ⟨i, s, loops⟩ failure := by
            cases hs : s.perform input i command with
            | ok s' => exact Or.inl ⟨_, .perform command h hs⟩
            | error o => exact Or.inr ⟨_, .overrun command h hs⟩
          cases instruction with
          | right => exact hcommand .right hinstruction
          | left => exact hcommand .left hinstruction
          | increment => exact hcommand .increment hinstruction
          | decrement => exact hcommand .decrement hinstruction
          | print => exact hcommand .print hinstruction
          | read => exact hcommand .read hinstruction
          | opening => exact Or.inl ⟨_, .enter hinstruction⟩
          | closing =>
              cases loops with
              | nil => exact Or.inr ⟨_, .unbalanced hinstruction⟩
              | cons start loops =>
                  by_cases hzero : s.current = 0
                  · exact Or.inl ⟨_, .leave hinstruction hzero⟩
                  · exact Or.inl ⟨_, .resume hinstruction hzero⟩

theorem next_of_step_eq {c : Configuration}
    (h : step code.toArray input p.configuration = .unfinished c) :
    ∃ q, Next code input p q ∧ c = q.configuration := by
  rcases finishes_or_next_or_fails code input p with hend | ⟨q, hq⟩ | ⟨failure, hf⟩
  · rw [step_eq_finished hend] at h
    cases h
  · rw [hq.step_eq] at h
    cases h
    exact ⟨q, hq, rfl⟩
  · rw [hf.step_eq] at h
    cases h

theorem fails_of_step_eq {failure : Failure}
    (h : step code.toArray input p.configuration = .failed failure) : Fails code input p failure := by
  rcases finishes_or_next_or_fails code input p with hend | ⟨q, hq⟩ | ⟨failure', hf⟩
  · rw [step_eq_finished hend] at h
    cases h
  · rw [hq.step_eq] at h
    cases h
  · rw [hf.step_eq] at h
    cases h
    exact hf

theorem finishes_of_step_eq {s : State}
    (h : step code.toArray input p.configuration = .finished s) :
    code.length ≤ p.position ∧ s = p.store.toState p.openLoops := by
  rcases finishes_or_next_or_fails code input p with hend | ⟨q, hq⟩ | ⟨failure, hf⟩
  · rw [step_eq_finished hend] at h
    cases h
    exact ⟨hend, rfl⟩
  · rw [hq.step_eq] at h
    cases h
  · rw [hf.step_eq] at h
    cases h

section Congr

variable {code' : Text} {input' : Array CodeUnit}

theorem instruction?_congr {i : Nat} (h : code'[i]? = code[i]?) :
    code'.instruction? i = code.instruction? i := by
  rw [Text.instruction?, h, Text.instruction?]

theorem perform_congr {i : Nat} {s : Store size} {command : Command}
    (hi : code.instruction? i = some command.instruction)
    (hinput : code.instruction? i = some .read → s.nextUnit input' = s.nextUnit input) :
    s.perform input' i command = s.perform input i command := by
  apply Store.perform_congr
  rintro rfl
  exact hinput hi

theorem Next.congr (h : Next code input p q) (hcode : code'[p.position]? = code[p.position]?)
    (hinput : code.instruction? p.position = some .read →
      p.store.nextUnit input' = p.store.nextUnit input) : Next code' input' p q := by
  have hsame := instruction?_congr hcode
  cases h with
  | perform command hi hs => exact .perform command (hsame.trans hi) ((perform_congr hi hinput).trans hs)
  | enter hi => exact .enter (hsame.trans hi)
  | leave hi hzero => exact .leave (hsame.trans hi) hzero
  | resume hi hzero => exact .resume (hsame.trans hi) hzero

theorem Fails.congr {failure : Failure} (h : Fails code input p failure)
    (hcode : code'[p.position]? = code[p.position]?)
    (hinput : code.instruction? p.position = some .read →
      p.store.nextUnit input' = p.store.nextUnit input) : Fails code' input' p failure := by
  have hsame := instruction?_congr hcode
  cases h with
  | overrun command hi hs => exact .overrun command (hsame.trans hi) ((perform_congr hi hinput).trans hs)
  | unbalanced hi => exact .unbalanced (hsame.trans hi)
  | invalid hc hi => exact .invalid (hcode.trans hc) hi

/-- An iteration looks at the code point at its position only, and at the input only if it reads. -/
theorem step_congr (hcode : code'[p.position]? = code[p.position]?)
    (hinput : code.instruction? p.position = some .read →
      p.store.nextUnit input' = p.store.nextUnit input) :
    step code'.toArray input' p.configuration = step code.toArray input p.configuration := by
  rcases finishes_or_next_or_fails code input p with hend | ⟨q, hq⟩ | ⟨failure, hf⟩
  · have hend' : code'.length ≤ p.position := by
      rw [← List.getElem?_eq_none_iff, hcode]
      exact List.getElem?_eq_none hend
    rw [step_eq_finished hend, step_eq_finished hend']
  · rw [hq.step_eq, (hq.congr hcode hinput).step_eq]
  · rw [hf.step_eq, (hf.congr hcode hinput).step_eq]

end Congr

/-! ### Several iterations -/

/-- The places that a run comes to from a given one, with the number of iterations it takes. -/
inductive Reaches (code : Text) (input : Array CodeUnit) (p : Place size) : Nat → Place size → Prop where
  | refl : Reaches code input p 0 p
  | next {n : Nat} {q r : Place size} (hq : Reaches code input p n q) (hr : Next code input q r) :
      Reaches code input p (n + 1) r

theorem Reaches.runFor_eq {n : Nat} (h : Reaches code input p n q) :
    runFor code.toArray input n p.configuration = .unfinished q.configuration := by
  induction h with
  | refl => rfl
  | next _ hr ih =>
      rw [runFor_succ, ih]
      exact hr.step_eq

theorem reaches_of_runFor {n : Nat} {c : Configuration}
    (h : runFor code.toArray input n p.configuration = .unfinished c) :
    ∃ q, Reaches code input p n q ∧ c = q.configuration := by
  induction n generalizing c with
  | zero =>
      cases h
      exact ⟨p, .refl, rfl⟩
  | succ n ih =>
      rw [runFor_succ] at h
      cases hn : runFor code.toArray input n p.configuration with
      | unfinished c' =>
          obtain ⟨q, hq, rfl⟩ := ih hn
          rw [hn] at h
          obtain ⟨r, hr, rfl⟩ := next_of_step_eq h
          exact ⟨r, .next hq hr, rfl⟩
      | finished s =>
          rw [hn] at h
          cases h
      | failed failure =>
          rw [hn] at h
          cases h

/-- A run that has ended took its last iteration at a place it had come to. -/
theorem exists_last_of_runFor {n : Nat} {o : Outcome} (h : runFor code.toArray input n p.configuration = o)
    (ho : ∀ c, o ≠ .unfinished c) :
    ∃ m < n, ∃ q, Reaches code input p m q ∧ step code.toArray input q.configuration = o := by
  induction n with
  | zero => exact absurd h.symm (ho _)
  | succ n ih =>
      rw [runFor_succ] at h
      cases hn : runFor code.toArray input n p.configuration with
      | unfinished c =>
          obtain ⟨q, hq, rfl⟩ := reaches_of_runFor hn
          rw [hn] at h
          exact ⟨n, Nat.lt_succ_self n, q, hq, h⟩
      | finished s =>
          rw [hn] at h
          obtain ⟨m, hm, hlast⟩ := ih (hn.trans h)
          exact ⟨m, Nat.lt_succ_of_lt hm, hlast⟩
      | failed failure =>
          rw [hn] at h
          obtain ⟨m, hm, hlast⟩ := ih (hn.trans h)
          exact ⟨m, Nat.lt_succ_of_lt hm, hlast⟩

/-- An outcome that is reached stays. -/
theorem runFor_of_le {m n : Nat} {o : Outcome} (h : runFor code.toArray input m p.configuration = o)
    (ho : ∀ c, o ≠ .unfinished c) (hmn : m ≤ n) : runFor code.toArray input n p.configuration = o := by
  rw [← Nat.add_sub_cancel' hmn, runFor_add, h]
  cases o with
  | unfinished c => exact absurd rfl (ho c)
  | finished s => rfl
  | failed failure => rfl

section Map

variable {onConfiguration : Configuration → Configuration} {onState : State → State}
  {onFailure : Failure → Failure}

/-- Two runs go in step, from place to changed place, as long as each iteration on the way of the first
has the changed outcome in the second. -/
theorem runFor_map {size' n : Nat} {code' : Text} {input' : Array CodeUnit} (f : Place size → Place size')
    (hf : ∀ q, (f q).configuration = onConfiguration q.configuration)
    (h : ∀ m < n, ∀ q, Reaches code input p m q → step code'.toArray input' (f q).configuration =
      (step code.toArray input q.configuration).map onConfiguration onState onFailure) :
    runFor code'.toArray input' n (f p).configuration =
      (runFor code.toArray input n p.configuration).map onConfiguration onState onFailure := by
  induction n with
  | zero => exact congrArg Outcome.unfinished (hf p)
  | succ n ih =>
      have hn := ih fun m hm => h m (Nat.lt_succ_of_lt hm)
      rw [runFor_succ, runFor_succ, hn]
      cases hrun : runFor code.toArray input n p.configuration with
      | finished s => rfl
      | failed failure => rfl
      | unfinished c =>
          obtain ⟨q, hq, rfl⟩ := reaches_of_runFor hrun
          have hlast := h n (Nat.lt_succ_self n) q hq
          rw [hf] at hlast
          exact hlast

end Map

end Place

/-! ### Runs of a script -/

variable {code input : Text} {tapeLength : TapeLength} {n : Nat}

theorem runFrom_fresh (n : Nat) (code input : Text) (tapeLength : TapeLength) :
    runFrom n code input (.fresh tapeLength.cells) =
      runFor code.toArray input.codeUnits.toArray n (Place.start tapeLength).configuration := by
  rw [runFrom, ← Store.toState_fresh]
  rfl

/-- The places that a script comes to on a fresh tape. -/
def Visits (code input : Text) (tapeLength : TapeLength) (n : Nat) (p : Place tapeLength.cells) : Prop :=
  Place.Reaches code input.codeUnits.toArray (.start tapeLength) n p

theorem visits_of_runFrom {c : Configuration}
    (h : runFrom n code input (.fresh tapeLength.cells) = .unfinished c) :
    ∃ p, Visits code input tapeLength n p ∧ c = p.configuration := by
  rw [runFrom_fresh] at h
  exact Place.reaches_of_runFor h

theorem Visits.runFrom_eq {p : Place tapeLength.cells} (h : Visits code input tapeLength n p) :
    runFrom n code input (.fresh tapeLength.cells) = .unfinished p.configuration := by
  rw [runFrom_fresh]
  exact Place.Reaches.runFor_eq h

theorem Visits.runFrom_succ_of_fails {p : Place tapeLength.cells} {failure : Failure}
    (h : Visits code input tapeLength n p) (hp : Place.Fails code input.codeUnits.toArray p failure) :
    runFrom (n + 1) code input (.fresh tapeLength.cells) = .failed failure := by
  rw [runFrom_fresh, runFor_succ, Place.Reaches.runFor_eq h]
  exact hp.step_eq

theorem Visits.runFrom_succ_of_length_le {p : Place tapeLength.cells}
    (h : Visits code input tapeLength n p) (hp : code.length ≤ p.position) :
    runFrom (n + 1) code input (.fresh tapeLength.cells) = .finished (p.store.toState p.openLoops) := by
  rw [runFrom_fresh, runFor_succ, Place.Reaches.runFor_eq h]
  exact Place.step_eq_finished hp

theorem fails_of_runFrom {failure : Failure}
    (h : runFrom n code input (.fresh tapeLength.cells) = .failed failure) :
    ∃ m < n, ∃ p, Visits code input tapeLength m p ∧
      Place.Fails code input.codeUnits.toArray p failure := by
  rw [runFrom_fresh] at h
  obtain ⟨m, hm, p, hp, hlast⟩ := Place.exists_last_of_runFor h (fun _ ho => nomatch ho)
  exact ⟨m, hm, p, hp, Place.fails_of_step_eq hlast⟩

theorem finishes_of_runFrom {s : State}
    (h : runFrom n code input (.fresh tapeLength.cells) = .finished s) :
    ∃ m < n, ∃ p, Visits code input tapeLength m p ∧ code.length ≤ p.position ∧
      s = p.store.toState p.openLoops := by
  rw [runFrom_fresh] at h
  obtain ⟨m, hm, p, hp, hlast⟩ := Place.exists_last_of_runFor h (fun _ ho => nomatch ho)
  exact ⟨m, hm, p, hp, Place.finishes_of_step_eq hlast⟩

/-! ### Places on the way of a run -/

/-- Among the places of a run with some property there is a first. -/
theorem Visits.exists_first {P : Place tapeLength.cells → Prop} {p : Place tapeLength.cells}
    (h : Visits code input tapeLength n p) (hp : P p) :
    ∃ m ≤ n, ∃ q, Visits code input tapeLength m q ∧ P q ∧
      ∀ k < m, ∀ r, Visits code input tapeLength k r → ¬ P r := by
  classical
  have hex : ∃ m q, Visits code input tapeLength m q ∧ P q := ⟨n, p, h, hp⟩
  obtain ⟨q, hq, hP⟩ := Nat.find_spec hex
  refine ⟨Nat.find hex, Nat.find_min' hex ⟨p, h, hp⟩, q, hq, hP, ?_⟩
  intro k hk r hr hPr
  exact Nat.find_min hex hk ⟨r, hr, hPr⟩

/-- A number that is bounded at all places of a run is greatest at one of them. -/
theorem exists_greatest (f : Place tapeLength.cells → Nat) {bound : Nat}
    (h : ∀ n p, Visits code input tapeLength n p → f p ≤ bound) :
    ∃ n p, Visits code input tapeLength n p ∧
      ∀ m q, Visits code input tapeLength m q → f q ≤ f p := by
  classical
  obtain ⟨n, p, hp, hgreatest⟩ := Nat.findGreatest_spec
    (P := fun value => ∃ n p, Visits code input tapeLength n p ∧ f p = value)
    (h 0 _ .refl) ⟨0, .start tapeLength, .refl, rfl⟩
  refine ⟨n, p, hp, ?_⟩
  intro m q hq
  rw [hgreatest]
  exact Nat.le_findGreatest (h m q hq) ⟨m, q, hq, rfl⟩

/-- Two runs go in step as long as each iteration on the way of the first does the same in both. -/
theorem runFrom_congr {code' input' : Text}
    (h : ∀ m < n, ∀ p, Visits code input tapeLength m p →
      step code'.toArray input'.codeUnits.toArray p.configuration =
        step code.toArray input.codeUnits.toArray p.configuration) :
    runFrom n code' input' (.fresh tapeLength.cells) =
      runFrom n code input (.fresh tapeLength.cells) := by
  rw [runFrom_fresh, runFrom_fresh, ← Outcome.map_id (runFor code.toArray _ n _)]
  refine Place.runFor_map id (fun _ => rfl) fun m hm p hp => ?_
  rw [Outcome.map_id]
  exact h m hm p hp

theorem runFrom_of_le {m : Nat} {o : Outcome} (h : runFrom m code input (.fresh tapeLength.cells) = o)
    (ho : ∀ c, o ≠ .unfinished c) (hmn : m ≤ n) : runFrom n code input (.fresh tapeLength.cells) = o := by
  rw [runFrom_fresh] at h ⊢
  exact Place.runFor_of_le h ho hmn

theorem runFrom_unique {m : Nat} {o o' : Outcome}
    (h : runFrom m code input (.fresh tapeLength.cells) = o) (ho : ∀ c, o ≠ .unfinished c)
    (h' : runFrom n code input (.fresh tapeLength.cells) = o') (ho' : ∀ c, o' ≠ .unfinished c) : o = o' := by
  rcases Nat.le_total m n with hle | hle
  · exact (runFrom_of_le h ho hle).symm.trans h'
  · exact h.symm.trans (runFrom_of_le h' ho' hle)

end TapeMachine.Machine

namespace TapeMachine

def Machine.Overrun.fault (o : Machine.Overrun) : Fault :=
  .pointerRange o.pointer o.position o.cursor o.tapeLength

namespace Script

open Machine

/-- The run of a script on a fresh tape of any length, however much memory there is for it. -/
def runFresh (steps : Nat) (code input : Text) (tapeLength : TapeLength) : Except Problem State :=
  conclude code (runFrom steps code input (.fresh tapeLength.cells))

theorem run_eq (steps : Nat) (code : Text) (settings : Settings) :
    run steps code settings =
      match Capacity.check settings.tapeLength.cells with
      | .error refusal => .error (.capacity refusal)
      | .ok _ => runFresh steps code settings.input settings.tapeLength := by
  rw [run, State.allocate]
  cases Capacity.check settings.tapeLength.cells <;> rfl

variable {steps : Nat} {code input : Text} {tapeLength : TapeLength}

theorem runFresh_eq_ok_iff {s : State} :
    runFresh steps code input tapeLength = .ok s ↔
      runFrom steps code input (.fresh tapeLength.cells) = .finished s := by
  rw [runFresh]
  cases runFrom steps code input (.fresh tapeLength.cells) <;> simp [conclude]

theorem runFresh_eq_unfinished_iff :
    runFresh steps code input tapeLength = .error .unfinished ↔
      ∃ c, runFrom steps code input (.fresh tapeLength.cells) = .unfinished c := by
  rw [runFresh]
  cases runFrom steps code input (.fresh tapeLength.cells) <;> simp [conclude]

theorem runFresh_eq_fault_iff {fault : Fault} :
    runFresh steps code input tapeLength = .error (.fault fault) ↔
      ∃ failure, runFrom steps code input (.fresh tapeLength.cells) = .failed failure ∧
        Fault.ofFailure code failure = fault := by
  rw [runFresh]
  cases runFrom steps code input (.fresh tapeLength.cells) <;> simp [conclude]

/-- A run without a result has failed or goes on. -/
theorem runFresh_eq_error {problem : Problem} (h : runFresh steps code input tapeLength = .error problem) :
    problem = .unfinished ∨ ∃ failure,
      runFrom steps code input (.fresh tapeLength.cells) = .failed failure ∧
        problem = .fault (.ofFailure code failure) := by
  rw [runFresh] at h
  cases hrun : runFrom steps code input (.fresh tapeLength.cells) with
  | finished s =>
      rw [hrun] at h
      cases h
  | failed failure =>
      rw [hrun] at h
      cases h
      exact Or.inr ⟨failure, rfl, rfl⟩
  | unfinished c =>
      rw [hrun] at h
      cases h
      exact Or.inl rfl

/-- A change of reports that leaves the invalid instructions alone leaves alone what is reported of one,
also where no symbol can be found for it. -/
theorem map_invalidInstructionAt (onFault : Fault → Fault)
    (hinvalid : ∀ symbol position place excerpt, onFault (.invalidInstruction symbol position place excerpt) =
      .invalidInstruction symbol position place excerpt)
    (hmissing : onFault .missingSymbol = .missingSymbol)
    (haddressable : onFault .notAddressable = .notAddressable) (source : Text) (position : Int) :
    onFault (.invalidInstructionAt source position) = .invalidInstructionAt source position := by
  unfold Fault.invalidInstructionAt
  cases source.at? position with
  | some symbol => exact hinvalid symbol position _ _
  | none =>
      cases Capacity.isAddressable position with
      | true => exact hmissing
      | false => exact haddressable

/-- The report of an invalid instruction never fails itself, since its position lies in the script. -/
theorem invalidInstructionAt_eq {i : Nat} {c : CodePoint} (h : code[i]? = some c) :
    Fault.invalidInstructionAt code i = .invalidInstruction c i (code.locate i) (code.excerpt i) := by
  have hlt : i < code.length := (List.getElem?_eq_some_iff.mp h).1
  have hat : code.at? i = some c := by
    rw [Text.at?, Offset.resolve?_ofNat hlt, Option.bind_some, h]
  rw [Fault.invalidInstructionAt, hat]

/-- What is reported as an invalid instruction stands in the script and is none. -/
theorem mem_of_runFresh {symbol : CodePoint} {position : Int} {place : Location} {excerpt : Text}
    (h : runFresh steps code input tapeLength =
      .error (.fault (.invalidInstruction symbol position place excerpt))) :
    symbol ∈ code ∧ Instruction.ofCodePoint? symbol = none := by
  obtain ⟨failure, hfailure, hfault⟩ := runFresh_eq_fault_iff.mp h
  obtain ⟨m, _, p, _, hfails⟩ := fails_of_runFrom hfailure
  cases hfails with
  | overrun => cases hfault
  | unbalanced => cases hfault
  | invalid hc hnone =>
      rw [Fault.ofFailure, invalidInstructionAt_eq hc] at hfault
      cases hfault
      exact ⟨List.mem_of_getElem? hc, hnone⟩

end Script

end TapeMachine
