import TapeMachine.Text

/-! A text widget as a sink. Its document is a list of blocks. A text is put into a new block at the
end, except that in an empty document it goes into the only block, which is empty; so an empty text
leaves no trace there. -/

namespace TapeMachine

abbrev TextBlocks := List Text

namespace TextBlocks

inductive Call where
  | takeCursor
  | moveToEnd
  | insertBlock
  | insertText (t : Text)
  | putCursor
  deriving DecidableEq

/-- A document with one empty block counts as empty. -/
def isBlank (blocks : TextBlocks) : Bool :=
  blocks = [[]]

def calls (blocks : TextBlocks) (t : Text) : List Call :=
  [.takeCursor, .moveToEnd] ++ (if isBlank blocks then [] else [.insertBlock]) ++ [.insertText t, .putCursor]

def extendLast (blocks : TextBlocks) (t : Text) : TextBlocks :=
  match blocks with
  | [] => [t]
  | [last] => [last ++ t]
  | block :: rest => block :: extendLast rest t

/-- The document after a call; the cursor always stands at its end. -/
def apply (blocks : TextBlocks) : Call → TextBlocks
  | .insertBlock => blocks ++ [[]]
  | .insertText t => extendLast blocks t
  | .takeCursor | .moveToEnd | .putCursor => blocks

def render (blocks : TextBlocks) (t : Text) : TextBlocks :=
  (calls blocks t).foldl apply blocks

/-- A document always has a block, so one that is begun without any has an empty one. -/
def start (blocks : List Text) : TextBlocks :=
  if blocks.isEmpty then [[]] else blocks

end TextBlocks

end TapeMachine
