import TapeMachine.Instruction
import TapeMachine.Text.Alphanumeric

/-! Hints: what to try next after each kind of fault. For something that is no instruction the hint
depends on what was found. -/

namespace TapeMachine

open Text (ofString newline)

inductive FaultKind where
  | instruction
  | pointer
  | loop

namespace FaultKind

def ofName? : String → Option FaultKind
  | "instruction" => some instruction
  | "pointer" => some pointer
  | "loop" => some loop
  | _ => none

end FaultKind

inductive Hint where
  | whitespace
  | comment
  | onlyInstructions
  | balance
  | matching
  deriving DecidableEq

namespace Hint

/-- The advice for what was found in place of an instruction. The lists of blanks and of comment
marks are searched for it as one run, so an empty text counts as blank. -/
def forSymbol (symbol : Text) : Hint :=
  if symbol.occursIn (ofString " \t\r\n") then .whitespace
  else if (¬ symbol.isEmpty ∧ symbol.all CodePoint.isAlphanumeric) ∨ symbol.occursIn (ofString "#/;") then
    .comment
  else .onlyInstructions

/-- The advice for a kind of fault; only the first kind looks at the symbol. -/
def forKind (kind : FaultKind) (symbol : Text) : Hint :=
  match kind with
  | .instruction => forSymbol symbol
  | .pointer => .balance
  | .loop => .matching

def wording : Hint → Text
  | whitespace => ofString "Whitespace is not an instruction. Strip it first (bfi --strip)."
  | comment => ofString "Comments are not allowed inline. Strip them first (bfi --strip)."
  | onlyInstructions =>
    ofString "Only the instructions " ++ Text.join [Text.space] (Instruction.symbols.map ([·])) ++
      ofString " are allowed."
  | balance => ofString "Check the balance of > and < inside loops, or raise --memory-words."
  | matching => ofString "Every ] needs an earlier matching [."

end Hint

/-- A text with a hint on a line of its own; an empty hint adds nothing. -/
def Text.withHint (t : Text) (hint : Option Text) : Text :=
  match hint with
  | none => t
  | some [] => t
  | some wording => t ++ newline :: ofString "Hint: " ++ wording

end TapeMachine
