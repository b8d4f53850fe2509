import TapeMachine.Numeral

/-! Backslash escapes: a code point written with ASCII alone, as two, four or eight hexadecimal
digits. -/

namespace TapeMachine

def CodePoint.backslash : CodePoint := .ofChar '\\'

/-- The shortest escape wide enough for the code point. -/
def CodePoint.escape (c : CodePoint) : Text :=
  if c.val < 0x100 then .backslash :: .ofChar 'x' :: Numeral.hex 2 c.val
  else if c.val < 0x10000 then .backslash :: .ofChar 'u' :: Numeral.hex 4 c.val
  else .backslash :: .ofChar 'U' :: Numeral.hex 8 c.val

/-- The text with every code point escaped that may not stand for itself. -/
def Text.escapeUnless (keeps : CodePoint → Bool) (t : Text) : Text :=
  t.flatMap fun c => if keeps c then [c] else c.escape

end TapeMachine
