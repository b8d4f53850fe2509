import TapeMachine.Encoding.Utf8
import TapeMachine.Encoding.Utf16
import TapeMachine.Text.Escape

/-! The encodings in which texts are stored and streamed. Writing never fails: what an encoding
cannot hold is escaped first, and escapes are ASCII, which every encoding holds. -/

namespace TapeMachine

inductive Encoding where
  | utf8
  /-- UTF-8 in which a mark at the beginning is skipped. -/
  | utf8Marked
  | ascii
  | latin1
  | utf16le
  deriving DecidableEq

namespace Encoding

def name : Encoding → String
  | utf8 => "utf-8"
  | utf8Marked => "utf-8-sig"
  | ascii => "ascii"
  | latin1 => "latin-1"
  | utf16le => "utf-16-le"

def all : List Encoding :=
  [utf8, utf8Marked, ascii, latin1, utf16le]

def ofName? (name : Text) : Option Encoding :=
  all.find? fun e => Text.ofString e.name = name

def byteBelow? (limit : Nat) (c : CodePoint) : Option Bytes :=
  if c.val < limit then some [.ofNat c.val] else none

/-- The bytes of a code point, none if the encoding cannot hold it. -/
def encodePoint? : Encoding → CodePoint → Option Bytes
  | utf8, c | utf8Marked, c => Utf8.encodePoint? c
  | ascii, c => byteBelow? 0x80 c
  | latin1, c => byteBelow? 0x100 c
  | utf16le, c => Utf16.encodePoint? c

def holds (e : Encoding) (c : CodePoint) : Bool :=
  (e.encodePoint? c).isSome

def encode? (e : Encoding) (t : Text) : Option Bytes :=
  (t.mapM e.encodePoint?).map List.flatten

/-- The text with every code point escaped that the encoding cannot hold. -/
def escape (e : Encoding) (t : Text) : Text :=
  t.escapeUnless e.holds

/-- Bytes below a limit, each of which is a code point. -/
def decodeBelow (name : String) (limit : Nat) (reason : DecodeReason) :
    (position : Nat) → Bytes → Except DecodeFault Text
  | _, [] => .ok []
  | position, b :: rest =>
    if b.toNat < limit then
      match decodeBelow name limit reason (position + 1) rest with
      | .ok t => .ok (.ofNat b.toNat :: t)
      | .error fault => .error fault
    else .error ⟨name, position, [b], reason⟩

def decode : Encoding → Bytes → Except DecodeFault Text
  | utf8, bytes => Utf8.decode bytes
  | utf8Marked, bytes => Utf8.decodeMarked bytes
  | ascii, bytes => decodeBelow ascii.name 0x80 .notAscii 0 bytes
  | latin1, bytes => .ok (bytes.map fun b => .ofNat b.toNat)
  | utf16le, bytes => Utf16.decode bytes

end Encoding

end TapeMachine
