import TapeMachine.Text

/-! Line ends. Files mark the end of a line by a newline, a carriage return, or the two together;
inside the library only the newline is left. -/

namespace TapeMachine.Text

def carriageReturn : CodePoint := .ofChar '\r'

/-- The text with every mark of a line end replaced by a newline; a carriage return and the newline
right after it are one mark. -/
def unifyLineEnds : Text → Text
  | [] => []
  | [c] => if c = carriageReturn then [newline] else [c]
  | c :: d :: rest =>
    if c = carriageReturn then
      if d = newline then newline :: unifyLineEnds rest else newline :: unifyLineEnds (d :: rest)
    else c :: unifyLineEnds (d :: rest)

theorem carriageReturn_notMem_unifyLineEnds (t : Text) : carriageReturn ∉ unifyLineEnds t := by
  have hne : carriageReturn ≠ newline := by decide
  fun_induction unifyLineEnds t with
  | case1 => exact List.not_mem_nil
  | case2 => exact List.not_mem_cons_of_ne_of_not_mem hne List.not_mem_nil
  | case3 c h => exact List.not_mem_cons_of_ne_of_not_mem (Ne.symm h) List.not_mem_nil
  | case4 _ ih => exact List.not_mem_cons_of_ne_of_not_mem hne ih
  | case5 _ _ _ ih => exact List.not_mem_cons_of_ne_of_not_mem hne ih
  | case6 c _ _ h ih => exact List.not_mem_cons_of_ne_of_not_mem (Ne.symm h) ih

end TapeMachine.Text
