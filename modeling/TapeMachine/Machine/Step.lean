import TapeMachine.Instruction
import TapeMachine.Machine.State

/-! Steps and runs. A step executes the code point at the current position and a run repeats steps.
A loop is always entered, and closing it looks at the cell: the loop is left at zero and otherwise
resumed just after its opening symbol, which stays open. What a script holds is only looked at when
it is reached. -/

namespace TapeMachine.Machine

structure Configuration where
  position : Nat
  state : State

inductive Outcome where
  | finished (state : State)
  | failed (failure : Failure)
  | unfinished (configuration : Configuration)

namespace Configuration

/-- Continues at the next position if the action succeeds. -/
@[inline] def advance (c : Configuration) (action : Action Unit) : Outcome :=
  match action c.state with
  | .ok _ s => .unfinished ⟨c.position + 1, s⟩
  | .error failure _ => .failed failure

def openLoop (c : Configuration) : Outcome :=
  .unfinished ⟨c.position + 1, { c.state with openLoops := c.position :: c.state.openLoops }⟩

/-- Leaves the innermost loop if the cell is zero and otherwise resumes it. -/
def closeLoop (c : Configuration) : Outcome :=
  match c.state.openLoops with
  | [] => .failed (.unbalancedLoop c.position)
  | start :: outer =>
    match cell c.state with
    | .error failure _ => .failed failure
    | .ok value s =>
      if value = 0 then .unfinished ⟨c.position + 1, { s with openLoops := outer }⟩
      else .unfinished ⟨start + 1, s⟩

end Configuration

/-- Executes one instruction; the run is finished once no code point is left. -/
def step (code : Array CodePoint) (input : Array CodeUnit) (c : Configuration) : Outcome :=
  match code[c.position]? with
  | none => .finished c.state
  | some symbol =>
    match Instruction.ofCodePoint? symbol with
    | some .right => c.advance (move 1 c.position)
    | some .left => c.advance (move (-1) c.position)
    | some .increment => c.advance (addToCell 1)
    | some .decrement => c.advance (addToCell (-1))
    | some .print => c.advance emitCell
    | some .read => c.advance (readUnit input)
    | some .opening => c.openLoop
    | some .closing => c.closeLoop
    | none => .failed (.invalidInstruction symbol c.position)

def runFor (code : Array CodePoint) (input : Array CodeUnit) : Nat → Configuration → Outcome
  | 0, c => .unfinished c
  | n + 1, c =>
    match step code input c with
    | .unfinished c' => runFor code input n c'
    | .finished s => .finished s
    | .failed failure => .failed failure

/-- Steps can be counted in two parts; an outcome that is reached in the first stays. -/
theorem runFor_add (code : Array CodePoint) (input : Array CodeUnit) (m n : Nat) (c : Configuration) :
    runFor code input (m + n) c =
      match runFor code input m c with
      | .unfinished c' => runFor code input n c'
      | other => other := by
  induction m generalizing c with
  | zero => rw [Nat.zero_add, runFor]
  | succ m ih =>
    rw [Nat.succ_add, runFor, runFor]
    cases step code input c with
    | unfinished c' => exact ih c'
    | finished s => rfl
    | failed failure => rfl

def runFrom (steps : Nat) (code input : Text) (s : State) : Outcome :=
  runFor code.toArray input.codeUnits.toArray steps ⟨0, s⟩

end TapeMachine.Machine
