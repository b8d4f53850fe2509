import TapeMachine.Text.Escape
import TapeMachine.Text.Printable

/-! Quoted texts, as messages show them. Single quotes stand around the text, or double quotes if it
holds single quotes only; the quote in use, the backslash and everything without a visible form are
escaped. -/

namespace TapeMachine.Text

def singleQuote : CodePoint := .ofChar '\x27'

/-- The quote around a text that holds single quotes and no double ones. -/
def doubleQuote : CodePoint := .ofChar '\x22'

/-- The quote that needs the fewer escapes, the single one if in doubt. -/
def quoteFor (t : Text) : CodePoint :=
  if singleQuote ∈ t ∧ doubleQuote ∉ t then doubleQuote else singleQuote

def quotePoint (quote c : CodePoint) : Text :=
  if c = quote ∨ c = .backslash then [.backslash, c]
  else if c = newline then [.backslash, .ofChar 'n']
  else if c = .ofChar '\r' then [.backslash, .ofChar 'r']
  else if c = .ofChar '\t' then [.backslash, .ofChar 't']
  else if c.isPrintable then [c]
  else c.escape

def quoted (t : Text) : Text :=
  quoteFor t :: t.flatMap (quotePoint (quoteFor t)) ++ [quoteFor t]

end TapeMachine.Text
