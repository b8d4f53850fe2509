import TapeMachine.Text

/-! The eight instructions and their symbols. Each symbol is one code point, and no two instructions
share one, so a script is read code point by code point without a parser. -/

namespace TapeMachine

inductive Instruction where
  | right
  | left
  | increment
  | decrement
  | print
  | read
  | opening
  | closing
  deriving DecidableEq

namespace Instruction

def symbol : Instruction → Char
  | right => '>'
  | left => '<'
  | increment => '+'
  | decrement => '-'
  | print => '.'
  | read => ','
  | opening => '['
  | closing => ']'

/-- All instructions, in the order in which messages list them. -/
def all : List Instruction :=
  [right, left, increment, decrement, print, read, opening, closing]

def ofCodePoint? (c : CodePoint) : Option Instruction :=
  match c.val with
  | 0x3E => some right
  | 0x3C => some left
  | 0x2B => some increment
  | 0x2D => some decrement
  | 0x2E => some print
  | 0x2C => some read
  | 0x5B => some opening
  | 0x5D => some closing
  | _ => none

def symbols : Text :=
  all.map fun i => .ofChar i.symbol

theorem ofCodePoint?_symbol (i : Instruction) : ofCodePoint? (.ofChar i.symbol) = some i := by
  cases i <;> rfl

theorem eq_symbol_of_ofCodePoint? {c : CodePoint} {i : Instruction} (h : ofCodePoint? c = some i) :
    c = .ofChar i.symbol := by
  unfold ofCodePoint? at h
  split at h <;> simp_all [CodePoint.ext_iff] <;> subst h <;> rfl

end Instruction

namespace Text

/-- Whether a text stands in the list of symbols as one run; a single code point does exactly if it
is an instruction. -/
def isSymbolRun (t : Text) : Bool :=
  t.occursIn Instruction.symbols

/-- The text without everything that is no instruction. -/
def strip (t : Text) : Text :=
  t.filter fun c => (Instruction.ofCodePoint? c).isSome

end Text

end TapeMachine
