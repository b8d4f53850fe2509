import TapeMachine.Numeral

/-! Tags of elements and the namespaces in them. A tag in a namespace is given as the name of the
namespace in braces followed by a local name. It is written as a short name of the namespace, a
colon and the local name, and every short name in use is declared once for the whole document. Some
namespaces have a short name of their own; the others are numbered in the order in which they are
met. -/

namespace TapeMachine

open Text (ofString)

/-- A name, and the namespace that it belongs to if there is one. -/
structure Tag where
  space : Option Text
  name : Text
  deriving DecidableEq

namespace Tag

/-- The tag that a text spells: the last closing brace ends the namespace. An opening brace without
a closing one spells none. -/
def ofText? (t : Text) : Option Tag :=
  match t with
  | [] => some ⟨none, []⟩
  | c :: rest =>
    if c ≠ .ofChar '\x7b' then some ⟨none, c :: rest⟩
    else
      let isOpen := fun d : CodePoint => d ≠ .ofChar '\x7d'
      match rest.reverse.dropWhile isOpen with
      | [] => none
      | _ :: before => some ⟨some before.reverse, (rest.reverse.takeWhile isOpen).reverse⟩

end Tag

/-- Namespaces with their short names, in the order in which they are met. -/
abbrev Namespaces := List (Text × Text)

namespace Namespaces

/-- Namespaces are named by addresses: a host and a path on it. -/
def address (host path : String) : Text :=
  ofString "http:" ++ ofString "//" ++ ofString host ++ ofString "/" ++ ofString path

def standardsHost : String := "www.w3.org"

/-- The namespace that needs no declaration, with its short name. -/
def builtIn : Text × Text :=
  (address standardsHost "XML/1998/namespace", ofString "xml")

def wellKnown : Namespaces := [
  (address standardsHost "1999/xhtml", ofString "html"),
  (address standardsHost "1999/02/22-rdf-syntax-ns#", ofString "rdf"),
  (address "schemas.xmlsoap.org" "wsdl/", ofString "wsdl"),
  (address standardsHost "2001/XMLSchema", ofString "xs"),
  (address standardsHost "2001/XMLSchema-instance", ofString "xsi"),
  (address "purl.org" "dc/elements/1.1/", ofString "dc")]

/-- The short name for a namespace that has none of its own, given those met before. -/
def numbered (spaces : Namespaces) : Text :=
  ofString "ns" ++ Numeral.ofNat spaces.length

/-- The namespaces after one more tag. -/
def meet (spaces : Namespaces) (tag : Tag) : Namespaces :=
  match tag.space with
  | none => spaces
  | some space =>
    if space = builtIn.1 ∨ (spaces.lookup space).isSome then spaces
    else spaces ++ [(space, (wellKnown.lookup space).getD spaces.numbered)]

def ofTags (tags : List Tag) : Namespaces :=
  tags.foldl meet []

/-- The written form of a tag whose namespace has been met. -/
def write (spaces : Namespaces) (tag : Tag) : Text :=
  match tag.space with
  | none => tag.name
  | some space => ((builtIn :: spaces).lookup space).getD [] ++ ofString ":" ++ tag.name

/-- Whether a short name comes before another one or is the same: by code points, from the left. -/
def inOrder : Text → Text → Bool
  | [], _ => true
  | _ :: _, [] => false
  | c :: s, d :: t => c.val < d.val || (c = d && inOrder s t)

/-- A code point of a value between double quotes, escaped if it could be taken for markup or would
be read as a blank. -/
def escapePoint (c : CodePoint) : Text :=
  if c = .ofChar '&' then ofString "&amp;"
  else if c = .ofChar '<' then ofString "&lt;"
  else if c = .ofChar '>' then ofString "&gt;"
  else if c = .ofChar '\x22' then ofString "&quot;"
  else if c = .ofChar '\r' then ofString "&#13;"
  else if c = .ofChar '\n' then ofString "&#10;"
  else if c = .ofChar '\t' then ofString "&#09;"
  else [c]

def declaration (entry : Text × Text) : Text :=
  ofString " xmlns:" ++ entry.2 ++ ofString "=\x22" ++ entry.1.flatMap escapePoint ++ ofString "\x22"

def declarations (spaces : Namespaces) : Text :=
  (spaces.mergeSort fun a b => inOrder a.2 b.2).flatMap declaration

end Namespaces

end TapeMachine
