import TapeMachine.Script

/-! The elementary actions without a script, one after the other and from any state: on a tape without cells,
with the pointer or the cursor anywhere. Each succeeds or fails as a whole. A success touches the pointer, or
the cell under it and with a read the cursor too; a failure touches nothing, even one with numbers in it that
are too long for a report. So no sequence of them changes the length of the tape, the output or the open
loops. -/

namespace TapeMachine.Machine

/-- What the machine can be asked for without a script. -/
inductive Primitive where
  | move (distance position : Int)
  | read
  | get
  | set (value : Int)
  | add (amount : Int)

/-- The value that a read stores: the unit that the cursor names, and zero behind the last one. -/
inductive Supplies (input : Array CodeUnit) (cursor : Int) : Int → Prop where
  | unit {i : Nat} {u : CodeUnit} (hi : Offset.Names input.size cursor i) (hu : input[i]? = some u) :
      Supplies input cursor u.val
  | zero (h : input.size ≤ cursor) : Supplies input cursor 0

/-- An action whose success answers nothing. -/
def silent (action : Action Unit) : Action (Option Int) := do
  action
  return none

namespace Primitive

/-- The action of the machine. Only the one that gets the cell answers a value. -/
def action (input : Array CodeUnit) : Primitive → Action (Option Int)
  | move distance position => silent (Machine.move distance position)
  | read => silent (readUnit input)
  | get => some <$> cell
  | set value => silent (setCell value)
  | add amount => silent (addToCell amount)

/-- What a primitive answers in a state, and the state afterwards. -/
def perform (input : Array CodeUnit) (s : State) (primitive : Primitive) :
    Except Failure (Option Int) × State :=
  match primitive.action input s with
  | .ok answer after => (.ok answer, after)
  | .error failure after => (.error failure, after)

/-- With which answers a primitive succeeds, and in which state. -/
inductive Succeeds (input : Array CodeUnit) (s : State) : Primitive → Option Int → State → Prop where
  | move {distance position : Int} (hlow : 0 ≤ s.pointer + distance)
      (hhigh : s.pointer + distance < s.tape.size) :
      Succeeds input s (move distance position) none { s with pointer := s.pointer + distance }
  | read {i : Nat} {value : Int} (hi : Offset.Names s.tape.size s.pointer i)
      (hvalue : Supplies input s.cursor value) :
      Succeeds input s read none
        { s with tape := s.tape.setIfInBounds i value, cursor := s.cursor + 1 }
  | get {i : Nat} {value : Int} (hi : Offset.Names s.tape.size s.pointer i)
      (hvalue : s.tape[i]? = some value) : Succeeds input s get (some value) s
  | set {i : Nat} {value : Int} (hi : Offset.Names s.tape.size s.pointer i) :
      Succeeds input s (set value) none { s with tape := s.tape.setIfInBounds i value }
  | add {i : Nat} {value amount : Int} (hi : Offset.Names s.tape.size s.pointer i)
      (hvalue : s.tape[i]? = some value) :
      Succeeds input s (add amount) none { s with tape := s.tape.setIfInBounds i (value + amount) }

/-- When a primitive fails, and how. -/
inductive Fails (input : Array CodeUnit) (s : State) : Primitive → Failure → Prop where
  | move {distance position : Int}
      (h : s.pointer + distance < 0 ∨ s.tape.size ≤ s.pointer + distance) :
      Fails input s (move distance position)
        (.pointerRange (s.pointer + distance) position s.cursor s.tape.size)
  /-- The unit is looked for before the cell. -/
  | readUnit (h : s.cursor < -input.size) : Fails input s read (.at s.cursor .missingItem)
  | readCell (hunit : -input.size ≤ s.cursor) (h : Offset.Misses s.tape.size s.pointer) :
      Fails input s read (.at s.pointer .missingCell)
  | get (h : Offset.Misses s.tape.size s.pointer) : Fails input s get (.at s.pointer .missingItem)
  | set {value : Int} (h : Offset.Misses s.tape.size s.pointer) :
      Fails input s (set value) (.at s.pointer .missingCell)
  | add {amount : Int} (h : Offset.Misses s.tape.size s.pointer) :
      Fails input s (add amount) (.at s.pointer .missingItem)

/-- The numbers in the report of a move off the tape. -/
def reported (s : State) (distance position : Int) : List Int :=
  [s.pointer + distance, position, s.cursor, s.tape.size]

/-- As which problem a failing primitive is reported. Of all reports only that of a move shows numbers, and
none is written if one of them has too many digits. -/
inductive ReportedAs (s : State) : Primitive → Problem → Prop where
  | move {distance position : Int} {fault : Fault} (hname : fault.className = "PointerRangeError")
      (hshort : ∀ n ∈ reported s distance position, n.natAbs < Numeral.limit) :
      ReportedAs s (move distance position) (.fault fault)
  | moveUnwritable {distance position n : Int} (hn : n ∈ reported s distance position)
      (hlong : Numeral.limit ≤ n.natAbs) : ReportedAs s (move distance position) .numeral
  | offset {primitive : Primitive} {fault : Fault}
      (hother : ∀ distance position, primitive ≠ move distance position)
      (hname : fault.className = "IndexError") : ReportedAs s primitive (.fault fault)

end Primitive

/-- A primitive in a sequence: where it begins, what it answers and where it ends. -/
structure Stage where
  before : State
  primitive : Primitive
  answer : Except Failure (Option Int)
  after : State

/-- The stages of primitives that follow one another, whether they fail or not. -/
def stages (input : Array CodeUnit) : State → List Primitive → List Stage
  | _, [] => []
  | s, primitive :: rest =>
    let ended := primitive.perform input s
    ⟨s, primitive, ended.1, ended.2⟩ :: stages input ended.2 rest

/-- What no primitive changes. -/
structure Keeps (s s' : State) : Prop where
  tape_size : s'.tape.size = s.tape.size
  output : s'.output = s.output
  openLoops : s'.openLoops = s.openLoops

theorem Keeps.refl (s : State) : Keeps s s :=
  ⟨rfl, rfl, rfl⟩

theorem Keeps.trans {s s' s'' : State} (h : Keeps s s') (h' : Keeps s' s'') : Keeps s s'' where
  tape_size := h'.tape_size.trans h.tape_size
  output := h'.output.trans h.output
  openLoops := h'.openLoops.trans h.openLoops

/-! ### Actions in any state -/

section Actions

variable {input : Array CodeUnit} {s s' : State} {value : Int} {action : Action Unit}
  {failure : Failure}

theorem silent_of_ok (h : action s = .ok () s') : silent action s = .ok none s' := by
  simp only [silent, bind, EStateM.bind, h]
  rfl

theorem silent_of_error (h : action s = .error failure s') : silent action s = .error failure s' := by
  simp only [silent, bind, EStateM.bind, h]

theorem supplies_or_lt (input : Array CodeUnit) (cursor : Int) :
    (∃ value, Supplies input cursor value) ∨ cursor < -input.size := by
  rcases Offset.names_or_misses input.size cursor with ⟨i, hi⟩ | hlow | hhigh
  · exact Or.inl ⟨_, .unit hi (Array.getElem?_eq_getElem hi.1)⟩
  · exact Or.inr hlow
  · exact Or.inl ⟨0, .zero hhigh⟩

theorem inputUnit_of_supplies (h : Supplies input s.cursor value) :
    inputUnit input s = .ok value s := by
  cases h with
  | unit hi hu => exact inputUnit_of_names hi hu
  | zero h => exact inputUnit_of_le h

end Actions

namespace Primitive

variable {input : Array CodeUnit} {s s' : State} {primitive : Primitive} {answer : Option Int}
  {failure : Failure}

/-! ### One primitive -/

theorem perform_of_ok (h : primitive.action input s = .ok answer s') :
    primitive.perform input s = (.ok answer, s') := by
  rw [perform, h]

theorem perform_of_error (h : primitive.action input s = .error failure s') :
    primitive.perform input s = (.error failure, s') := by
  rw [perform, h]

theorem Succeeds.perform_eq (h : Succeeds input s primitive answer s') :
    primitive.perform input s = (.ok answer, s') := by
  apply perform_of_ok
  cases h with
  | move hlow hhigh => exact silent_of_ok (if_neg (by omega))
  | read hi hvalue =>
      apply silent_of_ok
      rw [readUnit_apply, inputUnit_of_supplies hvalue]
      simp only [setCell_of_names hi]
      rfl
  | get hi hvalue =>
      simp only [action, Functor.map, EStateM.map, cell_of_names hi hvalue]
  | set hi => exact silent_of_ok (setCell_of_names hi _)
  | add hi hvalue =>
      apply silent_of_ok
      rw [addToCell_apply, cell_of_names hi hvalue]
      exact setCell_of_names hi _

theorem Fails.perform_eq (h : Fails input s primitive failure) :
    primitive.perform input s = (.error failure, s) := by
  apply perform_of_error
  cases h with
  | move h => exact silent_of_error (if_pos h)
  | readUnit h =>
      apply silent_of_error
      rw [readUnit_apply, inputUnit_of_lt h]
  | readCell hunit h =>
      apply silent_of_error
      obtain ⟨value, hvalue⟩ := (supplies_or_lt input s.cursor).resolve_right (Int.not_lt.mpr hunit)
      rw [readUnit_apply, inputUnit_of_supplies hvalue]
      simp only [setCell_of_misses h]
  | get h => simp only [action, Functor.map, EStateM.map, cell_of_misses h]
  | set h => exact silent_of_error (setCell_of_misses h _)
  | add h =>
      apply silent_of_error
      rw [addToCell_apply, cell_of_misses h]

/-- In every state a primitive succeeds or fails. -/
theorem succeeds_or_fails (input : Array CodeUnit) (s : State) (primitive : Primitive) :
    (∃ answer s', Succeeds input s primitive answer s') ∨ ∃ failure, Fails input s primitive failure := by
  have hcell {i : Nat} (hi : Offset.Names s.tape.size s.pointer i) : ∃ value, s.tape[i]? = some value :=
    ⟨_, Array.getElem?_eq_getElem hi.1⟩
  cases primitive with
  | move distance position =>
      by_cases h : s.pointer + distance < 0 ∨ s.tape.size ≤ s.pointer + distance
      · exact Or.inr ⟨_, .move h⟩
      · exact Or.inl ⟨_, _, .move (by omega) (by omega)⟩
  | read =>
      by_cases hunit : s.cursor < -input.size
      · exact Or.inr ⟨_, .readUnit hunit⟩
      · rcases Offset.names_or_misses s.tape.size s.pointer with ⟨i, hi⟩ | h
        · obtain ⟨value, hvalue⟩ := (supplies_or_lt input s.cursor).resolve_right hunit
          exact Or.inl ⟨_, _, .read hi hvalue⟩
        · exact Or.inr ⟨_, .readCell (Int.not_lt.mp hunit) h⟩
  | get =>
      rcases Offset.names_or_misses s.tape.size s.pointer with ⟨i, hi⟩ | h
      · obtain ⟨value, hvalue⟩ := hcell hi
        exact Or.inl ⟨_, _, .get hi hvalue⟩
      · exact Or.inr ⟨_, .get h⟩
  | set value =>
      rcases Offset.names_or_misses s.tape.size s.pointer with ⟨i, hi⟩ | h
      · exact Or.inl ⟨_, _, .set hi⟩
      · exact Or.inr ⟨_, .set h⟩
  | add amount =>
      rcases Offset.names_or_misses s.tape.size s.pointer with ⟨i, hi⟩ | h
      · obtain ⟨value, hvalue⟩ := hcell hi
        exact Or.inl ⟨_, _, .add hi hvalue⟩
      · exact Or.inr ⟨_, .add h⟩

theorem Succeeds.keeps (h : Succeeds input s primitive answer s') : Keeps s s' := by
  cases h with
  | move | get => exact ⟨rfl, rfl, rfl⟩
  | read | set | add => exact ⟨Array.size_setIfInBounds, rfl, rfl⟩

/-- A cell that the pointer does not name stays as it was. -/
theorem Succeeds.getElem?_eq (h : Succeeds input s primitive answer s') {j : Nat}
    (hj : ¬ Offset.Names s.tape.size s.pointer j) : s'.tape[j]? = s.tape[j]? := by
  cases h with
  | move | get => rfl
  | @read i _ hi | @set i _ hi | @add i _ _ hi =>
      have hij : i ≠ j := fun hij => hj (hij ▸ hi)
      exact Array.getElem?_setIfInBounds_ne hij

theorem reportedAs_at (hfailure : failure = .missingItem ∨ failure = .missingCell)
    (hother : ∀ distance position, primitive ≠ move distance position) (source : Text) (offset : Int) :
    primitive.ReportedAs s (.ofFault (.ofFailure source (.at offset failure))) := by
  rw [Failure.at]
  split
  · rcases hfailure with rfl | rfl <;> exact .offset hother rfl
  · exact .offset hother rfl

theorem Fails.reportedAs (h : Fails input s primitive failure) (source : Text) :
    primitive.ReportedAs s (.ofFault (.ofFailure source failure)) := by
  cases h with
  | @move distance position h =>
      rw [Fault.ofFailure, Problem.ofFault]
      by_cases hwritable : (Fault.pointerRange (s.pointer + distance) position s.cursor s.tape.size).isWritable
      · rw [if_pos hwritable]
        exact .move rfl (Fault.isWritable_pointerRange_iff.mp hwritable)
      · rw [if_neg hwritable]
        obtain ⟨n, hn⟩ := Classical.not_forall.mp (mt Fault.isWritable_pointerRange_iff.mpr hwritable)
        obtain ⟨hn, hlong⟩ := Classical.not_imp.mp hn
        exact .moveUnwritable hn (Nat.not_lt.mp hlong)
  | readUnit | get | add => exact reportedAs_at (Or.inl rfl) (by simp) source _
  | readCell | set => exact reportedAs_at (Or.inr rfl) (by simp) source _

end Primitive

/-! ### Sequences -/

variable {input : Array CodeUnit} {start : State} {primitives : List Primitive} {stage : Stage}

theorem perform_cases (input : Array CodeUnit) (s : State) (primitive : Primitive) :
    (∃ answer s', primitive.perform input s = (.ok answer, s') ∧ primitive.Succeeds input s answer s') ∨
      ∃ failure, primitive.perform input s = (.error failure, s) ∧ primitive.Fails input s failure := by
  rcases primitive.succeeds_or_fails input s with ⟨answer, s', h⟩ | ⟨failure, h⟩
  · exact Or.inl ⟨answer, s', h.perform_eq, h⟩
  · exact Or.inr ⟨failure, h.perform_eq, h⟩

theorem keeps_perform (input : Array CodeUnit) (s : State) (primitive : Primitive) :
    Keeps s (primitive.perform input s).2 := by
  rcases perform_cases input s primitive with ⟨answer, s', heq, h⟩ | ⟨failure, heq, -⟩
  · rw [heq]
    exact h.keeps
  · rw [heq]
    exact Keeps.refl s

/-- A stage begins in a state that has kept what the first one had. -/
theorem perform_of_mem_stages (h : stage ∈ stages input start primitives) :
    Keeps start stage.before ∧
      stage.primitive.perform input stage.before = (stage.answer, stage.after) := by
  induction primitives generalizing start with
  | nil => cases h
  | cons primitive rest ih =>
      rcases List.mem_cons.mp h with rfl | hrest
      · exact ⟨Keeps.refl start, rfl⟩
      · obtain ⟨hkeeps, hperform⟩ := ih hrest
        exact ⟨(keeps_perform input start primitive).trans hkeeps, hperform⟩

/-- Whatever has been asked for before, and from whatever state, a primitive succeeds as a whole or fails and
leaves the state as it was, whether its report can be written or not. Of the tape it changes at most the cell
under the pointer, and the length of the tape, the output and the open loops are those of the beginning. -/
theorem stages_atomic (h : stage ∈ stages input start primitives) :
    ((∃ answer, stage.answer = .ok answer ∧
        stage.primitive.Succeeds input stage.before answer stage.after) ∨
      ∃ failure, stage.answer = .error failure ∧ stage.primitive.Fails input stage.before failure ∧
        (∀ source, stage.primitive.ReportedAs stage.before (.ofFault (.ofFailure source failure))) ∧
        stage.after = stage.before) ∧
    (∀ j, ¬ Offset.Names stage.before.tape.size stage.before.pointer j →
      stage.after.tape[j]? = stage.before.tape[j]?) ∧
    Keeps start stage.after := by
  obtain ⟨hkeeps, hperform⟩ := perform_of_mem_stages h
  rcases perform_cases input stage.before stage.primitive with
    ⟨answer, s', heq, hsucceeds⟩ | ⟨failure, heq, hfails⟩
  · obtain ⟨hanswer, hafter⟩ := Prod.mk.inj (hperform.symm.trans heq)
    rw [hafter]
    exact ⟨Or.inl ⟨answer, hanswer, hsucceeds⟩, fun j => hsucceeds.getElem?_eq,
      hkeeps.trans hsucceeds.keeps⟩
  · obtain ⟨hanswer, hafter⟩ := Prod.mk.inj (hperform.symm.trans heq)
    rw [hafter]
    exact ⟨Or.inr ⟨failure, hanswer, hfails, hfails.reportedAs, rfl⟩, fun j _ => rfl, hkeeps⟩

/-- With pointer and cursor counted from the end a read changes the first cell, and a move off the tape after
it changes nothing. -/
theorem stages_atomic_negative_offsets :
    let input : Array CodeUnit := #[⟨0x41, by decide⟩]
    let start : State := ⟨#[5, 7], -2, -1, [3], #[]⟩
    let between : State := ⟨#[0x41, 7], -2, 0, [3], #[]⟩
    ⟨between, .move 4 0, .error (.pointerRange 2 0 0 2), between⟩ ∈
        stages input start [.read, .move 4 0] ∧
      Keeps start between := by
  intro input start between
  have hmem : ⟨between, .move 4 0, .error (.pointerRange 2 0 0 2), between⟩ ∈
      stages input start [.read, .move 4 0] := .tail _ (.head _)
  exact ⟨hmem, (stages_atomic hmem).2.2⟩

/-- A move from the greatest pointer that can be written is no fault, because the report would show the next
number. -/
theorem not_reported_behind_last_written :
    let start : State := ⟨#[0, 0], Numeral.limit - 1, 0, [], #[]⟩
    ∃ failure, (Primitive.move 1 0).perform #[] start = (.error failure, start) ∧
      ∀ source, ¬ ∃ fault, Problem.ofFault (.ofFailure source failure) = .fault fault ∧
        (fault.className = "PointerRangeError" ∨ fault.className = "IndexError") := by
  intro start
  have htarget : start.pointer + 1 = (Numeral.limit : Int) := Int.sub_add_cancel _ _
  have hlong : (start.pointer + 1).natAbs = Numeral.limit := by
    rw [htarget, Int.natAbs_natCast]
  have hbehind : (start.tape.size : Int) ≤ start.pointer + 1 := by
    rw [htarget]
    exact Int.ofNat_le.mpr Numeral.one_lt_limit
  have hfails : Primitive.Fails #[] start (.move 1 0) _ := .move (Or.inr hbehind)
  refine ⟨_, hfails.perform_eq, ?_⟩
  rintro source ⟨fault, hfault, -⟩
  have hreported := hfails.reportedAs source
  rw [hfault] at hreported
  cases hreported with
  | move _ hshort => exact absurd (hshort _ (.head _)) (hlong ▸ Nat.lt_irrefl _)
  | offset hother => exact hother 1 0 rfl

end TapeMachine.Machine
