import TapeMachine.Capacity
import TapeMachine.Offset
import TapeMachine.Sink.Tag

/-! Elements of a markup document as sinks. Each rendered text becomes a new division at the end of
an element; its own text and earlier children stay. In the written form of a document the characters
that make markup are escaped, so no rendered text can pose as an element. -/

namespace TapeMachine

open Text (ofString)

/-- An element with its tag, its attributes by name and value, its text, its children after the text,
and its tail, the text that follows it. -/
structure Element where
  tag : Text
  attributes : List (Text × Text)
  text : Text
  children : List Element
  tail : Text

inductive ElementFault where
  | missingChild
  /-- The offset of the child is held by no machine word. -/
  | notAddressable
  /-- A tag opens a namespace and does not close it. -/
  | openNamespace
  deriving DecidableEq

def ElementFault.message : ElementFault → Text
  | missingChild => ofString "child index out of range"
  | notAddressable => Capacity.unfit
  | openNamespace => ofString "not enough values to unpack (expected 2, got 1)"

namespace Element

/-- An element with nothing behind it and a class as its only attribute, if it has one. -/
def node (tag : Text) (styleClass : Option Text) (text : Text) (children : List Element) : Element where
  tag := tag
  attributes := styleClass.toList.map fun value => (ofString "class", value)
  text := text
  children := children
  tail := []

def leaf (tag text : Text) : Element :=
  node tag none text []

def division (t : Text) : Element :=
  node (ofString "div") (some (ofString "bfjs")) t []

def render (element : Element) (t : Text) : Element :=
  { element with children := element.children ++ [division t] }

/-- The element of a document that texts are rendered into: from the whole document on, the index of a
child on each level. -/
abbrev Target := List Nat

/-- The target of an offset among the children, or the whole document without one. -/
def target (document : Element) : Option Int → Except ElementFault Target
  | none => .ok []
  | some offset =>
    match Offset.resolve? document.children.length offset with
    | some index => .ok [index]
    | none => .error (if Capacity.isAddressable offset then .missingChild else .notAddressable)

def at? (document : Element) : Target → Option Element
  | [] => some document
  | index :: rest => document.children[index]?.bind fun child => child.at? rest

def modifyAt (change : Element → Element) (document : Element) : Target → Element
  | [] => change document
  | index :: rest =>
    { document with children := document.children.modify index fun child => modifyAt change child rest }

def renderAt (document : Element) (target : Target) (t : Text) : Element :=
  document.modifyAt (·.render t) target

def childCount (document : Element) (target : Target) : Nat :=
  ((document.at? target).map (·.children.length)).getD 0

/-- A code point of a text, escaped if it could be taken for markup. -/
def escapePoint (c : CodePoint) : Text :=
  if c = .ofChar '&' then ofString "&amp;"
  else if c = .ofChar '<' then ofString "&lt;"
  else if c = .ofChar '>' then ofString "&gt;"
  else [c]

mutual

/-- The texts of all tags and of all names of attributes, in the order in which they are met. -/
def names : Element → List Text
  | ⟨tag, attributes, _, children, _⟩ => tag :: attributes.map Prod.fst ++ namesAll children

def namesAll : List Element → List Text
  | [] => []
  | e :: rest => names e ++ namesAll rest

end

/-- A name as it is written among the namespaces of its document. -/
def writtenName (spaces : Namespaces) (name : Text) : Text :=
  ((Tag.ofText? name).map spaces.write).getD name

def writtenAttribute (spaces : Namespaces) (entry : Text × Text) : Text :=
  ofString " " ++ writtenName spaces entry.1 ++ ofString "=\x22" ++
    entry.2.flatMap Namespaces.escapePoint ++ ofString "\x22"

/-- The tag, the declarations and the attributes of an element, as both the short and the long form
begin. -/
def heading (spaces : Namespaces) (declarations tag : Text) (attributes : List (Text × Text)) : Text :=
  ofString "<" ++ writtenName spaces tag ++ declarations ++ attributes.flatMap (writtenAttribute spaces)

mutual

/-- The written form with the given declarations; an element without text and children is closed in
its own tag. -/
def writtenIn (spaces : Namespaces) (declarations : Text) : Element → Text
  | ⟨tag, attributes, text, children, tail⟩ =>
    let body :=
      if text.isEmpty ∧ children.isEmpty then ofString " />"
      else
        ofString ">" ++ text.flatMap escapePoint ++ writtenAllIn spaces children ++
          ofString "</" ++ writtenName spaces tag ++ ofString ">"
    heading spaces declarations tag attributes ++ body ++ tail.flatMap escapePoint

/-- The written forms of some elements one after the other, without declarations. -/
def writtenAllIn (spaces : Namespaces) : List Element → Text
  | [] => []
  | e :: rest => writtenIn spaces [] e ++ writtenAllIn spaces rest

end

/-- The written form of a document, which declares all namespaces at its outermost element. -/
def written (document : Element) : Except ElementFault Text :=
  match document.names.mapM Tag.ofText? with
  | none => .error .openNamespace
  | some names =>
    let spaces := Namespaces.ofTags names
    .ok (writtenIn spaces spaces.declarations document)

end Element

end TapeMachine
