import TapeMachine.Capacity
import TapeMachine.Hint
import TapeMachine.Location
import TapeMachine.Machine.State
import TapeMachine.Text.Quoted

/-! Faults as they are reported: a failure of the machine together with its place in the source, and
the message with its hint. -/

namespace TapeMachine

open Text (ofString newline)

inductive Fault where
  | invalidInstruction (symbol : CodePoint) (position : Int) (place : Location) (excerpt : Text)
  | pointerRange (pointer position cursor tapeLength : Int)
  | unbalancedLoop (position : Int) (excerpt : Text)
  /-- Reading an item that is not there. -/
  | missingItem
  /-- Writing a cell that is not there. -/
  | missingCell
  /-- Looking at a code point outside the source. -/
  | missingSymbol
  /-- Reading, writing or looking at an offset that no machine word holds. -/
  | notAddressable
  deriving DecidableEq

namespace Fault

def invalidInstructionAt (source : Text) (position : Int) : Fault :=
  match source.at? position with
  | some symbol => .invalidInstruction symbol position (source.locate position) (source.excerpt position)
  | none => if Capacity.isAddressable position then .missingSymbol else .notAddressable

def unbalancedLoopAt (source : Text) (position : Int) : Fault :=
  .unbalancedLoop position (source.excerpt position)

/-- The report of a failure of the machine while it runs the source. -/
def ofFailure (source : Text) : Machine.Failure → Fault
  | .pointerRange pointer position cursor tapeLength => .pointerRange pointer position cursor tapeLength
  | .missingItem => .missingItem
  | .missingCell => .missingCell
  | .notAddressable => .notAddressable
  | .invalidInstruction _ position => invalidInstructionAt source position
  | .unbalancedLoop position => unbalancedLoopAt source position

private def labelled (label : String) (n : Int) : Text :=
  newline :: ofString label ++ Numeral.ofInt n

/-- What happened, without the hint. -/
def statement : Fault → Text
  | invalidInstruction symbol position place excerpt =>
    ofString "InvalidInstruction: " ++ Text.quoted [symbol] ++
      ofString " at position " ++ Numeral.ofInt position ++
      ofString " (line " ++ Numeral.ofNat place.line ++
      ofString ", column " ++ Numeral.ofInt place.column ++ ofString ")" ++ newline :: excerpt
  | pointerRange pointer position cursor tapeLength =>
    let limit :=
      if pointer < 0 then ofString "less than 0."
      else ofString "greater than " ++ Numeral.ofInt (tapeLength - 1) ++ ofString "."
    ofString "PointerRange: Memory pointer cannot be " ++ limit ++
      labelled "memoryPointer: " pointer ++ labelled "instruction: " position ++
      labelled "stdInPointer: " cursor ++ labelled "Memory Words: " tapeLength
  | unbalancedLoop position excerpt =>
    ofString "UnbalancedLoop: ']' at position " ++ Numeral.ofInt position ++
      ofString " has no matching '['" ++ newline :: excerpt
  | missingItem => ofString "list index out of range"
  | missingCell => ofString "list assignment index out of range"
  | missingSymbol => ofString "string index out of range"
  | notAddressable => Capacity.unfit

def numbers : Fault → List Int
  | invalidInstruction _ position place _ => [position, place.line, place.column]
  | pointerRange pointer position cursor tapeLength =>
    (if pointer < 0 then [] else [tapeLength - 1]) ++ [pointer, position, cursor, tapeLength]
  | unbalancedLoop position _ => [position]
  | missingItem | missingCell | missingSymbol | notAddressable => []

/-- Whether all its numbers are short enough for the statement to be written. -/
def isWritable (fault : Fault) : Bool :=
  fault.numbers.all Numeral.isWritable

theorem isWritable_pointerRange_iff {pointer position cursor : Int} {tapeLength : Nat} :
    (pointerRange pointer position cursor tapeLength).isWritable = true ↔
      ∀ n ∈ [pointer, position, cursor, (tapeLength : Int)], n.natAbs < Numeral.limit := by
  have hlast : (tapeLength : Int).natAbs < Numeral.limit →
      ((tapeLength : Int) - 1).natAbs < Numeral.limit := by
    have hone := Numeral.one_lt_limit
    omega
  simp only [isWritable, numbers, List.all_eq_true, Numeral.isWritable_iff]
  constructor
  · exact fun h n hn => h n (List.mem_append_right _ hn)
  · intro h n hn
    rcases List.mem_append.mp hn with hcell | hn
    · split at hcell
      · cases hcell
      · rw [List.mem_singleton.mp hcell]
        exact hlast (h _ (by simp))
    · exact h n hn

def hint? : Fault → Option Hint
  | invalidInstruction symbol .. => some (.forKind .instruction [symbol])
  | pointerRange .. => some (.forKind .pointer [])
  | unbalancedLoop .. => some (.forKind .loop [])
  | _ => none

def message (fault : Fault) : Text :=
  fault.statement.withHint (fault.hint?.map Hint.wording)

/-- The fields of a report besides its message, by name, in the order in which they are listed. -/
def fields : Fault → List (String × (Int ⊕ Text))
  | invalidInstruction symbol position place excerpt =>
    [("char", .inr [symbol]), ("position", .inl position), ("line", .inl place.line),
      ("column", .inl place.column), ("context", .inr excerpt)]
  | pointerRange pointer position cursor tapeLength =>
    [("pointer", .inl pointer), ("position", .inl position), ("stdin_pointer", .inl cursor),
      ("memory_words", .inl tapeLength)]
  | unbalancedLoop position excerpt => [("position", .inl position), ("context", .inr excerpt)]
  | _ => []

def className : Fault → String
  | invalidInstruction .. => "InvalidInstructionError"
  | pointerRange .. => "PointerRangeError"
  | unbalancedLoop .. => "UnbalancedLoopError"
  | missingItem | missingCell | missingSymbol | notAddressable => "IndexError"

/-- One field as `name=value`, texts quoted. -/
private def written (field : String × (Int ⊕ Text)) : Text :=
  ofString field.1 ++ ofString "=" ++
    match field.2 with
    | .inl n => Numeral.ofInt n
    | .inr t => t.quoted

/-- The report as a record: its class, and in brackets the message and then all fields. -/
def record (fault : Fault) : Text :=
  ofString fault.className ++ ofString "(" ++
    Text.join (ofString ", ") ((("message", .inr fault.message) :: fault.fields).map written) ++ ofString ")"

end Fault

end TapeMachine
