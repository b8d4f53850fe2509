import TapeMachine.Text

/-! Paths of files. A path is kept in its shortest spelling: repeated slashes, parts that are a
single dot and a slash at the end are dropped, while parts that go up are kept. Two leading slashes
are told apart from one, and three or more count as one. -/

namespace TapeMachine

/-- Leading slashes and the parts between the others. -/
structure Path where
  root : Text
  parts : List Text
  deriving DecidableEq

namespace Path

def slash : CodePoint := .ofChar '/'

def here : Text := .ofString "."

def up : Text := .ofString ".."

def ofText (t : Text) : Path where
  root :=
    let slashes := t.takeWhile (· = slash)
    if slashes.length ≤ 2 then slashes else [slash]
  parts := (t.splitAt slash).filter fun part => part ≠ [] ∧ part ≠ here

/-- The shortest spelling; a path without parts and root is the place itself. -/
def written (p : Path) : Text :=
  if p.root.isEmpty ∧ p.parts.isEmpty then here else p.root ++ Text.join [slash] p.parts

end Path

end TapeMachine
