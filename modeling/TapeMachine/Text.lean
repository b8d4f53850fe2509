import TapeMachine.CodePoint

/-! Text as a list of code points, with the few operations on it that the rest of the library
shares: lines, occurrence of one text in another, and padding. -/

namespace TapeMachine

/-- A text is a list of code points; lone and paired surrogates may stand anywhere in it. -/
abbrev Text := List CodePoint

namespace Text

/-- A string holds no surrogates, so every string is a text. -/
def ofString (s : String) : Text :=
  s.toList.map CodePoint.ofChar

/-- The text as a string, if no surrogate stands in it. -/
def toString? (t : Text) : Option String :=
  (t.mapM CodePoint.toChar?).map String.ofList

def newline : CodePoint := .ofChar '\n'

def space : CodePoint := .ofChar ' '

/-- The parts between separators: one more than there are separators, so never none. -/
def splitAt (separator : CodePoint) : Text → List Text
  | [] => [[]]
  | c :: rest =>
    if c = separator then [] :: splitAt separator rest
    else match splitAt separator rest with
      | [] => [[c]]
      | first :: others => (c :: first) :: others

def lines (t : Text) : List Text :=
  t.splitAt newline

/-- Whether the first text stands somewhere in the second as one run; the empty text stands in every
text. -/
def occursIn (part : Text) : Text → Bool
  | [] => part.isEmpty
  | c :: rest => part.isPrefixOf (c :: rest) || occursIn part rest

/-- Blanks in front, up to the given width; a longer text is not cut. -/
def padLeft (width : Nat) (t : Text) : Text :=
  List.replicate (width - t.length) space ++ t

theorem length_padLeft (width : Nat) (t : Text) : (padLeft width t).length = max width t.length := by
  rw [padLeft, List.length_append, List.length_replicate]
  omega

def join (separator : Text) (parts : List Text) : Text :=
  List.intercalate separator parts

theorem splitAt_ne_nil (separator : CodePoint) (t : Text) : t.splitAt separator ≠ [] := by
  cases t with
  | nil => simp [splitAt]
  | cons c rest =>
    unfold splitAt
    split
    · simp
    · split <;> simp

end Text

end TapeMachine
