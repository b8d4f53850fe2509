import TapeMachine.Numeral
import TapeMachine.Offset

/-! Dumps of the tape: the values of its first cells in rows, a blank between two values and a
newline between two rows. -/

namespace TapeMachine.Dump

/-- The list in pieces of the given length, the last one possibly shorter. -/
def chunks {α : Type} (size : Nat) (positive : 0 < size) (xs : List α) : List (List α) :=
  match xs with
  | [] => []
  | x :: rest => (x :: rest).take size :: chunks size positive ((x :: rest).drop size)
termination_by xs.length
decreasing_by simp only [List.length_drop, List.length_cons]; omega

theorem flatten_chunks {α : Type} (size : Nat) (positive : 0 < size) (xs : List α) :
    (chunks size positive xs).flatten = xs := by
  fun_induction chunks size positive xs with
  | case1 => rfl
  | case2 x rest ih => rw [List.flatten_cons, ih, List.take_append_drop]

def row (values : List Int) : Text :=
  Text.join [Text.space] (values.map Numeral.ofInt)

def rows (perRow : Nat) (positive : 0 < perRow) (values : List Int) : Text :=
  Text.join [Text.newline] ((chunks perRow positive values).map row)

/-- The cells before an offset, which may count from the end. -/
def select (memory : List Int) (count : Int) : List Int :=
  memory.take (Offset.cut memory.length count)

def standardRow : Int := 8

inductive Refusal where
  /-- Rows cannot have the length zero. -/
  | emptyRows

def Refusal.message : Refusal → Text
  | emptyRows => .ofString "range() arg 3 must not be zero"

/-- The dump of the cells before an offset. Rows of negative length hold nothing. -/
def format (memory : List Int) (count perRow : Int) : Except Refusal Text :=
  if h : 0 < perRow then .ok (rows perRow.toNat (by omega) (select memory count))
  else if perRow = 0 then .error .emptyRows
  else .ok []

end TapeMachine.Dump
