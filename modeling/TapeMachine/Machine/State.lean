import TapeMachine.Capacity
import TapeMachine.CodeUnit
import TapeMachine.Offset

/-! The state of the machine and its elementary actions. Every action works on any state, also on
one that no script reaches: a tape without cells, a pointer or a cursor outside its range. Pointer
and cursor are offsets, so below zero they count from the end. An action that fails reports why and
leaves the state as it was. -/

namespace TapeMachine.Machine

/-- The tape with its pointer, the input cursor, the loops still open and what has been printed. -/
structure State where
  tape : Array Int
  pointer : Int
  cursor : Int
  /-- Positions of the opening symbols of the open loops, the innermost first. -/
  openLoops : List Nat
  output : Array Text

/-- Why the machine stops before the end of its script. -/
inductive Failure where
  /-- The pointer would leave the tape. -/
  | pointerRange (pointer position cursor : Int) (tapeLength : Nat)
  /-- No cell or input unit stands at the offset that is read. -/
  | missingItem
  /-- No cell stands at the offset that is written. -/
  | missingCell
  /-- The offset that is read or written is held by no machine word. -/
  | notAddressable
  /-- The script holds something else than an instruction. -/
  | invalidInstruction (symbol : CodePoint) (position : Nat)
  /-- A closing symbol is reached while no loop is open. -/
  | unbalancedLoop (position : Nat)
  deriving DecidableEq

/-- The failure at an offset without an item: the one given, unless the offset itself is at fault. -/
def Failure.at (offset : Int) (failure : Failure) : Failure :=
  if Capacity.isAddressable offset then failure else .notAddressable

/-- An action may change the state, answer a value or fail. -/
abbrev Action := EStateM Failure State

namespace State

/-- A tape of zeros with nothing read or printed yet; no length below one has a cell. -/
def fresh (tapeLength : Int) : State where
  tape := Array.replicate tapeLength.toNat 0
  pointer := 0
  cursor := 0
  openLoops := []
  output := #[]

/-- A fresh tape, if memory suffices for it. -/
def allocate (tapeLength : Int) : Except Capacity.Refusal State :=
  match Capacity.check tapeLength with
  | .error refusal => .error refusal
  | .ok _ => .ok (fresh tapeLength)

/-- The open loops in the order in which they were opened. -/
def loopStarts (s : State) : List Nat :=
  s.openLoops.reverse

/-- Everything printed as one text, with split surrogate pairs joined across items. -/
def stdout (s : State) : Text :=
  Text.joinPairs s.output.toList.flatten

end State

/-- Moves the pointer by any distance, but only to a cell of the tape. The position is that of the
instruction that asks for it. -/
def move (distance position : Int) : Action Unit := fun s =>
  let target := s.pointer + distance
  if target < 0 ∨ s.tape.size ≤ target then
    .error (.pointerRange target position s.cursor s.tape.size) s
  else .ok () { s with pointer := target }

def cell : Action Int := fun s =>
  match Offset.resolve? s.tape.size s.pointer with
  | some i => .ok (s.tape.getD i 0) s
  | none => .error (.at s.pointer .missingItem) s

def setCell (value : Int) : Action Unit := fun s =>
  match Offset.resolve? s.tape.size s.pointer with
  | some i => .ok () { s with tape := s.tape.setIfInBounds i value }
  | none => .error (.at s.pointer .missingCell) s

section Cell

variable {s : State} {i : Nat} {value : Int}

theorem cell_of_names (hi : Offset.Names s.tape.size s.pointer i) (hvalue : s.tape[i]? = some value) :
    cell s = .ok value s := by
  have hget : s.tape.getD i 0 = value := by
    rw [Array.getD_eq_getD_getElem?, hvalue, Option.getD_some]
  rw [cell, Offset.resolve?_eq_some_iff.mpr hi]
  simp only [hget]

theorem cell_of_misses (h : Offset.Misses s.tape.size s.pointer) :
    cell s = .error (.at s.pointer .missingItem) s := by
  rw [cell, Offset.resolve?_eq_none_iff.mpr h]

theorem setCell_of_names (hi : Offset.Names s.tape.size s.pointer i) (value : Int) :
    setCell value s = .ok () { s with tape := s.tape.setIfInBounds i value } := by
  rw [setCell, Offset.resolve?_eq_some_iff.mpr hi]

theorem setCell_of_misses (h : Offset.Misses s.tape.size s.pointer) (value : Int) :
    setCell value s = .error (.at s.pointer .missingCell) s := by
  rw [setCell, Offset.resolve?_eq_none_iff.mpr h]

end Cell

/-- Adds to the cell under the pointer; cells have no bounds. -/
def addToCell (amount : Int) : Action Unit := do
  setCell ((← cell) + amount)

theorem addToCell_apply (amount : Int) (s : State) :
    addToCell amount s =
      match cell s with
      | .ok value s => setCell (value + amount) s
      | .error failure s => .error failure s := by
  unfold addToCell
  cases h : cell s <;> simp only [bind, EStateM.bind, h]

/-- The input unit at the cursor, and zero once the cursor is past the last one. -/
def inputUnit (input : Array CodeUnit) : Action Int := fun s =>
  if s.cursor < input.size then
    match (Offset.resolve? input.size s.cursor).bind (input[·]?) with
    | some u => .ok u.val s
    | none => .error (.at s.cursor .missingItem) s
  else .ok 0 s

section Input

variable {input : Array CodeUnit} {s : State}

theorem inputUnit_of_names {i : Nat} {u : CodeUnit} (hi : Offset.Names input.size s.cursor i)
    (hu : input[i]? = some u) : inputUnit input s = .ok u.val s := by
  have hlt : s.cursor < input.size := by
    obtain ⟨hi, hcursor | hcursor⟩ := hi <;> omega
  rw [inputUnit, if_pos hlt, Offset.resolve?_eq_some_iff.mpr hi, Option.bind_some, hu]

theorem inputUnit_of_le (h : input.size ≤ s.cursor) : inputUnit input s = .ok 0 s := by
  rw [inputUnit, if_neg (Int.not_lt.mpr h)]

theorem inputUnit_of_lt (h : s.cursor < -input.size) :
    inputUnit input s = .error (.at s.cursor .missingItem) s := by
  have hlt : s.cursor < input.size := by omega
  rw [inputUnit, if_pos hlt, Offset.resolve?_eq_none_iff.mpr (Or.inl h), Option.bind_none]

end Input

def advanceCursor : Action Unit := fun s =>
  .ok () { s with cursor := s.cursor + 1 }

/-- Stores the input unit at the cursor in the cell under the pointer and advances the cursor, in
this order. -/
def readUnit (input : Array CodeUnit) : Action Unit := do
  setCell (← inputUnit input)
  advanceCursor

theorem readUnit_apply (input : Array CodeUnit) (s : State) :
    readUnit input s =
      match inputUnit input s with
      | .error failure s => .error failure s
      | .ok value s =>
        match setCell value s with
        | .ok _ s => advanceCursor s
        | .error failure s => .error failure s := by
  unfold readUnit
  cases h : inputUnit input s with
  | error failure s' => simp only [bind, EStateM.bind, h]
  | ok value s' =>
    simp only [bind, EStateM.bind, h]
    cases setCell value s' <;> rfl

def emit (item : Text) : Action Unit := fun s =>
  .ok () { s with output := s.output.push item }

def emitCell : Action Unit := do
  emit [(CodeUnit.ofInt (← cell)).toCodePoint]

theorem emitCell_apply (s : State) :
    emitCell s =
      match cell s with
      | .ok value s => emit [(CodeUnit.ofInt value).toCodePoint] s
      | .error failure s => .error failure s := by
  unfold emitCell
  cases h : cell s <;> simp only [bind, EStateM.bind, h]

end TapeMachine.Machine
