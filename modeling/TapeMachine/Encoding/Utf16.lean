import TapeMachine.CodeUnit
import TapeMachine.Encoding.Fault

/-! UTF-16 with the low byte first. Decoding is strict: every surrogate unit has to be half of a
pair. -/

namespace TapeMachine.Utf16

def unitBytes (u : CodeUnit) : Bytes :=
  [.ofNat (u.val % 0x100), .ofNat (u.val / 0x100)]

def encodePoint? (c : CodePoint) : Option Bytes :=
  if c.isSurrogate then none else some (c.codeUnits.flatMap unitBytes)

def unit (low high : UInt8) : CodeUnit :=
  ⟨low.toNat + 0x100 * high.toNat, by
    have hl := low.toNat_lt
    have hh := high.toNat_lt
    omega⟩

/-- The text of bytes that stand at a position of the whole. -/
def decodeFrom (position : Nat) (bytes : Bytes) : Except DecodeFault Text :=
  match bytes with
  | [] => .ok []
  | [b] => fault [b] .truncated
  | low :: high :: rest =>
    let u := unit low high
    if ¬ u.toCodePoint.isSurrogate then
      match decodeFrom (position + 2) rest with
      | .ok t => .ok (u.toCodePoint :: t)
      | .error fault => .error fault
    else if u.toCodePoint.isLowSurrogate then fault [low, high] .lowSurrogateFirst
    else
      match rest with
      | low' :: high' :: rest' =>
        match CodeUnit.pair? u (unit low' high') with
        | none => fault [low, high] .highSurrogateAlone
        | some c =>
          match decodeFrom (position + 4) rest' with
          | .ok t => .ok (c :: t)
          | .error fault => .error fault
      | short => fault (low :: high :: short) .unexpectedEnd
where
  /-- A fault of the bytes at this position. -/
  fault (wrong : Bytes) (reason : DecodeReason) : Except DecodeFault Text :=
    .error ⟨"utf-16-le", position, wrong, reason⟩

def decode (bytes : Bytes) : Except DecodeFault Text :=
  decodeFrom 0 bytes

end TapeMachine.Utf16
