import TapeMachine.Capacity
import TapeMachine.Numeral
import TapeMachine.Offset

/-! Places in a source text and the excerpt that shows one. Lines and columns count from one and in
code points. Any offset has a location; for one outside the text the column is counted from the line
in which it is cut. -/

namespace TapeMachine

/-- A line and a column, both counted from one. -/
structure Location where
  line : Nat
  column : Int
  deriving DecidableEq

namespace Text

def before (t : Text) (offset : Int) : Text :=
  t.take (Offset.cut t.length offset)

def at? (t : Text) (offset : Int) : Option CodePoint :=
  (Offset.resolve? t.length offset).bind (t[·]?)

def lastLineStart (t : Text) : Nat :=
  t.length - (t.reverse.takeWhile (· ≠ newline)).length

/-- The line and column of an offset: newlines before it, and its distance from the last of them. -/
def locate (source : Text) (position : Int) : Location where
  line := (source.before position).count newline + 1
  column := position - lastLineStart (source.before position) + 1

/-- The text of a line, empty if there is no such line. -/
def line (source : Text) (number : Nat) : Text :=
  source.lines.getD (number - 1) []

/-- What stands before the text of the line in an excerpt: a mark, the line number and a bar. -/
def gutter (number : Nat) : Text :=
  ofString "> " ++ padLeft 4 (Numeral.ofNat number) ++ ofString " | "

/-- The line of an offset with its number, and below it a caret under the column. -/
def excerpt (source : Text) (position : Int) : Text :=
  let place := source.locate position
  gutter place.line ++ source.line place.line ++ newline ::
    (List.replicate 7 space ++ List.replicate (place.column - 1).toNat space ++ ofString "^")

/-- The excerpt, if memory suffices for the blanks before its caret. An offset far outside the text
has a column as far away. -/
def excerpt? (source : Text) (position : Int) : Except Capacity.Refusal Text :=
  match Capacity.check ((source.locate position).column - 1) with
  | .error refusal => .error refusal
  | .ok _ => .ok (source.excerpt position)

end Text

end TapeMachine
