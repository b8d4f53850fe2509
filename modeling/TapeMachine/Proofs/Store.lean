import TapeMachine.Machine.Step
import TapeMachine.TapeLength

/-! Stores: the states that a script can bring about. The pointer stands on a cell of the tape, the
cursor counts the units asked for, and each item of the output is one code unit. A store knows
nothing of loops; its commands are the six instructions that are no bracket, and the only thing that
can go wrong with them is a move off the tape. Every action of the machine on the state of a store
does what the command does. -/

namespace TapeMachine.Machine

/-- An instruction that is no bracket. -/
inductive Command where
  | right
  | left
  | increment
  | decrement
  | print
  | read
  deriving DecidableEq

def Command.instruction : Command → Instruction
  | right => .right
  | left => .left
  | increment => .increment
  | decrement => .decrement
  | print => .print
  | read => .read

theorem Command.instruction_ne_opening (command : Command) : command.instruction ≠ .opening := by
  cases command <;> decide

theorem Command.instruction_ne_closing (command : Command) : command.instruction ≠ .closing := by
  cases command <;> decide

/-- A move that would leave the tape: where it leads, and where the machine stands. -/
structure Overrun where
  pointer : Int
  position : Nat
  cursor : Nat
  tapeLength : Nat
  deriving DecidableEq

def Overrun.failure (o : Overrun) : Failure :=
  .pointerRange o.pointer o.position o.cursor o.tapeLength

/-- A tape of the given number of cells with a pointer on it, the number of units asked for, and the
units printed. -/
structure Store (size : Nat) where
  cells : Vector Int size
  pointer : Fin size
  cursor : Nat
  printed : Array CodeUnit

namespace Store

/-- The tape of zeros on which a script starts. -/
def fresh (tapeLength : TapeLength) : Store tapeLength.cells where
  cells := Vector.replicate tapeLength.cells 0
  pointer := ⟨0, tapeLength.positive⟩
  cursor := 0
  printed := #[]

variable {size : Nat}

def current (s : Store size) : Int :=
  s.cells.get s.pointer

def write (s : Store size) (value : Int) : Store size :=
  { s with cells := s.cells.set s.pointer.val value s.pointer.isLt }

/-- The store with its pointer on another cell. -/
def moveTo (s : Store size) (j : Fin size) : Store size :=
  { s with pointer := j }

/-- The unit that is read next; the input is followed by zeros. -/
def nextUnit (input : Array CodeUnit) (s : Store size) : Int :=
  match input[s.cursor]? with
  | some u => u.val
  | none => 0

/-- What a command at a position of the script does. -/
def perform (input : Array CodeUnit) (position : Nat) (s : Store size) :
    Command → Except Overrun (Store size)
  | .right =>
    if h : s.pointer.val + 1 < size then .ok { s with pointer := ⟨s.pointer.val + 1, h⟩ }
    else .error ⟨s.pointer.val + 1, position, s.cursor, size⟩
  | .left =>
    if 0 < s.pointer.val then
      .ok { s with pointer := ⟨s.pointer.val - 1, by have h := s.pointer.isLt; omega⟩ }
    else .error ⟨s.pointer.val - 1, position, s.cursor, size⟩
  | .increment => .ok (s.write (s.current + 1))
  | .decrement => .ok (s.write (s.current - 1))
  | .print => .ok { s with printed := s.printed.push (.ofInt s.current) }
  | .read => .ok { s.write (s.nextUnit input) with cursor := s.cursor + 1 }

/-- What a command does depends on the input only if it reads, and then only on the unit that is next. -/
theorem perform_congr {input input' : Array CodeUnit} {s : Store size} {command : Command}
    (h : command = .read → s.nextUnit input' = s.nextUnit input) (position : Nat) :
    s.perform input' position command = s.perform input position command := by
  cases command with
  | right | left | increment | decrement | print => rfl
  | read => rw [perform, perform, h rfl]

/-- Only a move fails, one cell beyond an end of the tape. -/
theorem perform_eq_error {input : Array CodeUnit} {position : Nat} {s : Store size} {command : Command}
    {o : Overrun} (h : s.perform input position command = .error o) :
    (command = .left ∧ o = ⟨-1, position, s.cursor, size⟩) ∨
      (command = .right ∧ o = ⟨size, position, s.cursor, size⟩) := by
  cases command with
  | right =>
      right
      rw [perform] at h
      split at h
      · cases h
      · next hlast =>
          have hlt := s.pointer.isLt
          have hsize : (s.pointer.val : Int) + 1 = size := by omega
          cases h
          exact ⟨rfl, by rw [hsize]⟩
  | left =>
      left
      rw [perform] at h
      split at h
      · cases h
      · next hfirst =>
          have hzero : (s.pointer.val : Int) - 1 = -1 := by omega
          cases h
          exact ⟨rfl, by rw [hzero]⟩
  | increment | decrement | print | read => cases h

theorem cursor_of_perform {input : Array CodeUnit} {position : Nat} {s s' : Store size} {command : Command}
    (h : s.perform input position command = .ok s') :
    s'.cursor = s.cursor + if command = .read then 1 else 0 := by
  cases command with
  | right | left =>
      rw [perform] at h
      split at h
      · cases h
        rfl
      · cases h
  | increment | decrement | print | read =>
      cases h
      rfl

theorem printed_of_perform {input : Array CodeUnit} {position : Nat} {s s' : Store size} {command : Command}
    (h : s.perform input position command = .ok s') :
    s'.printed = if command = .print then s.printed.push (.ofInt s.current) else s.printed := by
  cases command with
  | right | left =>
      rw [perform] at h
      split at h
      · cases h
        rfl
      · cases h
  | increment | decrement | print | read =>
      cases h
      rfl

/-- The state of the machine with the given loops open, the innermost first. -/
def toState (s : Store size) (openLoops : List Nat) : State where
  tape := s.cells.toArray
  pointer := s.pointer.val
  cursor := s.cursor
  openLoops := openLoops
  output := s.printed.map fun u => [u.toCodePoint]

theorem toState_fresh (tapeLength : TapeLength) :
    (fresh tapeLength).toState [] = .fresh tapeLength.cells := by
  simp [fresh, toState, State.fresh]

/-! ### The machine's actions on stores -/

section Actions

variable (s : Store size) (loops : List Nat)

theorem names_pointer :
    Offset.Names (s.toState loops).tape.size (s.toState loops).pointer s.pointer.val :=
  ⟨s.cells.size_toArray.symm ▸ s.pointer.isLt, Or.inl rfl⟩

theorem cell_toState : cell (s.toState loops) = .ok s.current (s.toState loops) := by
  apply cell_of_names (s.names_pointer loops)
  simp [toState, current, Vector.get]

theorem setCell_toState (value : Int) :
    setCell value (s.toState loops) = .ok () ((s.write value).toState loops) := by
  have hset : s.cells.toArray.setIfInBounds s.pointer.val value =
      (s.cells.set s.pointer.val value s.pointer.isLt).toArray := by
    simp [Array.setIfInBounds]
  rw [setCell_of_names (s.names_pointer loops)]
  simp only [toState, write, hset]

theorem addToCell_toState (amount : Int) :
    addToCell amount (s.toState loops) = .ok () ((s.write (s.current + amount)).toState loops) := by
  rw [addToCell_apply, cell_toState]
  exact setCell_toState s loops (s.current + amount)

theorem emitCell_toState :
    emitCell (s.toState loops) =
      .ok () (toState { s with printed := s.printed.push (.ofInt s.current) } loops) := by
  rw [emitCell_apply, cell_toState]
  simp only [emit, toState, Array.map_push]

theorem inputUnit_toState (input : Array CodeUnit) :
    inputUnit input (s.toState loops) = .ok (s.nextUnit input) (s.toState loops) := by
  by_cases h : s.cursor < input.size
  · have hu : input[s.cursor]? = some input[s.cursor] := Array.getElem?_eq_getElem h
    rw [inputUnit_of_names ⟨h, Or.inl rfl⟩ hu, nextUnit, hu]
  · have hle : (input.size : Int) ≤ s.cursor := Int.ofNat_le.mpr (Nat.le_of_not_lt h)
    rw [inputUnit_of_le hle, nextUnit, Array.getElem?_eq_none (Nat.le_of_not_lt h)]

theorem readUnit_toState (input : Array CodeUnit) :
    readUnit input (s.toState loops) =
      .ok () (toState { s.write (s.nextUnit input) with cursor := s.cursor + 1 } loops) := by
  rw [readUnit_apply, inputUnit_toState]
  simp only [setCell_toState]
  rfl

theorem move_right_toState (position : Nat) :
    move 1 position (s.toState loops) =
      if h : s.pointer.val + 1 < size then
        .ok () (toState { s with pointer := ⟨s.pointer.val + 1, h⟩ } loops)
      else .error (.pointerRange (s.pointer.val + 1) position s.cursor size) (s.toState loops) := by
  have hsize : (s.toState loops).tape.size = size := s.cells.size_toArray
  have hpointer : (s.toState loops).pointer = s.pointer.val := rfl
  unfold move
  rw [hsize, hpointer]
  by_cases h : s.pointer.val + 1 < size
  · rw [dif_pos h, if_neg (by omega)]
    rfl
  · rw [dif_neg h, if_pos (by omega)]
    rfl

theorem move_left_toState (position : Nat) :
    move (-1) position (s.toState loops) =
      if 0 < s.pointer.val then
        .ok () (toState { s with pointer := ⟨s.pointer.val - 1, by have h := s.pointer.isLt; omega⟩ } loops)
      else .error (.pointerRange (s.pointer.val - 1) position s.cursor size) (s.toState loops) := by
  have hsize : (s.toState loops).tape.size = size := s.cells.size_toArray
  have hpointer : (s.toState loops).pointer = s.pointer.val := rfl
  have hlt := s.pointer.isLt
  unfold move
  rw [hsize, hpointer]
  by_cases h : 0 < s.pointer.val
  · have htarget : (s.pointer.val : Int) + -1 = ((s.pointer.val - 1 : Nat) : Int) := by omega
    rw [if_pos h, if_neg (by omega), htarget]
    rfl
  · rw [if_neg h, if_pos (by omega)]
    rfl

end Actions

end Store

/-- The action of the machine that carries out a command at a position. -/
def Command.action (input : Array CodeUnit) (position : Nat) : Command → Action Unit
  | right => move 1 position
  | left => move (-1) position
  | increment => addToCell 1
  | decrement => addToCell (-1)
  | print => emitCell
  | read => readUnit input

/-- On stores the machine's action does what the command does, and at an overrun the state stays as it
was. -/
theorem Command.action_toState (command : Command) (input : Array CodeUnit) (position : Nat)
    {size : Nat} (s : Store size) (loops : List Nat) :
    command.action input position (s.toState loops) =
      match s.perform input position command with
      | .ok s' => .ok () (s'.toState loops)
      | .error o => .error o.failure (s.toState loops) := by
  cases command with
  | right =>
      rw [action, Store.move_right_toState, Store.perform]
      by_cases h : s.pointer.val + 1 < size
      · rw [dif_pos h, dif_pos h]
      · rw [dif_neg h, dif_neg h]
        rfl
  | left =>
      rw [action, Store.move_left_toState, Store.perform]
      by_cases h : 0 < s.pointer.val
      · rw [if_pos h, if_pos h]
      · rw [if_neg h, if_neg h]
        rfl
  | increment => exact Store.addToCell_toState s loops 1
  | decrement => exact Store.addToCell_toState s loops (-1)
  | print => exact Store.emitCell_toState s loops
  | read => exact Store.readUnit_toState s loops input

end TapeMachine.Machine
