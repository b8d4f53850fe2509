import TapeMachine.Capacity
import TapeMachine.Encoding
import TapeMachine.Fault
import TapeMachine.Machine.Step
import TapeMachine.Storage.Disk
import TapeMachine.TapeLength
import TapeMachine.Text.LineEnds

/-! Scripts: what is needed to run one, from text or from a file, and everything that can stand in
the way. A run is given a bound on its steps, because a script may loop forever. -/

namespace TapeMachine

open Text (ofString)

inductive Problem where
  | fault (fault : Fault)
  /-- A fault shows a number that is too long to be written. -/
  | numeral
  /-- The tape or an excerpt does not fit into memory. -/
  | capacity (refusal : Capacity.Refusal)
  /-- The tape cannot have the length asked for. -/
  | length (refusal : TapeLength.Refusal)
  /-- Settings and results are values, so none of their fields can be assigned. -/
  | fixedField (name : Text)
  | storage (fault : StorageFault)
  | encoding (name : Text)
  | decoding (fault : DecodeFault)
  /-- The bound on the steps was reached. -/
  | unfinished

namespace Problem

def message : Problem → Text
  | fault f => f.message
  | numeral => Numeral.tooLong
  | capacity refusal => refusal.message
  | length refusal => refusal.message
  | fixedField name => ofString "cannot assign to field " ++ name.quoted
  | storage f => f.message
  | encoding name => ofString "unknown encoding: " ++ name
  | decoding f => f.message
  | unfinished => ofString "the run goes on"

/-- The problem that a fault is. While a script runs every number is short; with numbers from
elsewhere the fault can be impossible to write, and then that is the problem. -/
def ofFault (fault : Fault) : Problem :=
  if fault.isWritable then .fault fault else numeral

/-- The problem of a closing symbol without an opening one at any offset. -/
def unbalancedLoopAt (source : Text) (position : Int) : Problem :=
  match source.excerpt? position with
  | .error refusal => capacity refusal
  | .ok excerpt => ofFault (.unbalancedLoop position excerpt)

end Problem

/-- What a run takes besides its script, and whether its output is shown. -/
structure Settings where
  tapeLength : TapeLength := .standard
  input : Text := []
  quiet : Bool := false

/-- New values for some settings; a length is only offered. -/
structure Settings.Change where
  tapeLength : Option TapeLength.Offer := none
  input : Option Text := none
  quiet : Option Bool := none

namespace Settings

/-- The settings with the changed values, unless the offered length is refused. -/
def change (settings : Settings) (change : Change) : Except TapeLength.Refusal Settings := do
  let tapeLength ←
    match change.tapeLength with
    | none => pure settings.tapeLength
    | some offer => TapeLength.check offer
  return ⟨tapeLength, change.input.getD settings.input, change.quiet.getD settings.quiet⟩

end Settings

namespace Script

def conclude (code : Text) : Machine.Outcome → Except Problem Machine.State
  | .finished s => .ok s
  | .failed failure => .error (.fault (.ofFailure code failure))
  | .unfinished _ => .error .unfinished

/-- The final state of a run on a fresh tape, for which memory has to suffice. -/
def run (steps : Nat) (code : Text) (settings : Settings) : Except Problem Machine.State :=
  match Machine.State.allocate settings.tapeLength.cells with
  | .error refusal => .error (.capacity refusal)
  | .ok start => conclude code (Machine.runFrom steps code settings.input start)

def output (steps : Nat) (code : Text) (settings : Settings) : Except Problem Text :=
  (run steps code settings).map Machine.State.stdout

/-- The text of a file in the encoding of a name. The file is looked for before the encoding. -/
def load (read : Path → Except StorageFault Bytes) (path encoding : Text) : Except Problem Text :=
  match read (.ofText path) with
  | .error fault => .error (.storage fault)
  | .ok bytes =>
    match Encoding.ofName? encoding with
    | none => .error (.encoding encoding)
    | some e =>
      match e.decode bytes with
      | .error fault => .error (.decoding fault)
      | .ok t => .ok t.unifyLineEnds

/-- What is loaded has its line ends unified, and what stands in the way of loading is no fault of the
script. -/
theorem load_cases (read : Path → Except StorageFault Bytes) (path encoding : Text) :
    (∃ t : Text, load read path encoding = .ok t.unifyLineEnds) ∨
      ∃ problem, load read path encoding = .error problem ∧ ∀ fault, problem ≠ .fault fault := by
  rw [load]
  cases read (.ofText path) with
  | error fault => exact Or.inr ⟨.storage fault, rfl, fun _ h => by cases h⟩
  | ok bytes =>
      cases Encoding.ofName? encoding with
      | none => exact Or.inr ⟨.encoding encoding, rfl, fun _ h => by cases h⟩
      | some e =>
          dsimp only
          cases e.decode bytes with
          | error fault => exact Or.inr ⟨.decoding fault, rfl, fun _ h => by cases h⟩
          | ok t => exact Or.inl ⟨t, rfl⟩

/-- Runs the script in a file, with everything but instructions taken out of it if asked. -/
def runFile (steps : Nat) (read : Path → Except StorageFault Bytes) (path encoding : Text) (strip : Bool)
    (settings : Settings) : Except Problem Machine.State :=
  match load read path encoding with
  | .error problem => .error problem
  | .ok code => run steps (if strip then code.strip else code) settings

end Script

end TapeMachine
