import TapeMachine.Text

/-! Limits of memory. Offsets and sizes are kept in signed machine words, and long before the last
of them memory is used up. The other definitions know no limits; whoever asks for a sequence of some
size has the size checked here first, so that it is never made when it could not be kept. -/

namespace TapeMachine.Capacity

open Text (ofString)

/-- Whether a signed word of 64 bits holds the number. -/
def isAddressable (n : Int) : Bool :=
  -0x8000000000000000 ≤ n && n ≤ 0x7FFFFFFFFFFFFFFF

/-- The number of items that stands for the memory of the machine. It is no limit of sequences; how many items
really fit differs from one machine to another. -/
def most : Nat := 0x100000000

inductive Refusal where
  /-- The size is held by no machine word. -/
  | notAddressable
  /-- Memory does not suffice. -/
  | notAvailable
  deriving DecidableEq

def unfit : Text :=
  ofString "cannot fit 'int' into an index-sized integer"

def Refusal.message : Refusal → Text
  | notAddressable => unfit
  | notAvailable => []

/-- How many items a sequence of the given size has; below zero it has none. -/
def check (size : Int) : Except Refusal Nat :=
  if ¬ isAddressable size then .error .notAddressable
  else if most < size then .error .notAvailable
  else .ok size.toNat

end TapeMachine.Capacity
