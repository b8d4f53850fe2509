import TapeMachine.Encoding.Fault

/-! UTF-8: one to four bytes for every code point that is no surrogate. Decoding is strict. It
refuses overlong forms, encoded surrogates and numbers above the last code point at the first byte
that rules them out. -/

namespace TapeMachine

namespace Utf8

def encodePoint? (c : CodePoint) : Option Bytes :=
  let n := c.val
  let tail := fun m : Nat => UInt8.ofNat (0x80 + m % 0x40)
  if n < 0x80 then some [.ofNat n]
  else if n < 0x800 then some [.ofNat (0xC0 + n / 0x40), tail n]
  else if c.isSurrogate then none
  else if n < 0x10000 then some [.ofNat (0xE0 + n / 0x1000), tail (n / 0x40), tail n]
  else some [.ofNat (0xF0 + n / 0x40000), tail (n / 0x1000), tail (n / 0x40), tail n]

/-- What a first byte promises: how many bytes follow, the bits that it holds itself, and the range
of the byte right after it. All later bytes lie between `0x80` and `0xBF`. -/
structure Lead where
  following : Nat
  bits : Nat
  least : Nat
  greatest : Nat

/-- The promise of a byte from `0x80` on, if it can begin a code point. -/
def lead? (b : Nat) : Option Lead :=
  if b < 0xC2 then none
  else if b < 0xE0 then some ⟨1, b - 0xC0, 0x80, 0xBF⟩
  else if b = 0xE0 then some ⟨2, 0, 0xA0, 0xBF⟩
  else if b = 0xED then some ⟨2, 0xD, 0x80, 0x9F⟩
  else if b < 0xF0 then some ⟨2, b - 0xE0, 0x80, 0xBF⟩
  else if b = 0xF0 then some ⟨3, 0, 0x90, 0xBF⟩
  else if b < 0xF4 then some ⟨3, b - 0xF0, 0x80, 0xBF⟩
  else if b = 0xF4 then some ⟨3, 4, 0x80, 0x8F⟩
  else none

/-- Collects the bits of the bytes that follow a first byte. A failure tells how many bytes were
right and what is wrong then. -/
def follow (bits least greatest : Nat) : (following : Nat) → Bytes → Except (Nat × DecodeReason) Nat
  | 0, _ => .ok bits
  | _ + 1, [] => .error (0, .unexpectedEnd)
  | following + 1, b :: rest =>
    if least ≤ b.toNat ∧ b.toNat ≤ greatest then
      match follow (bits * 0x40 + (b.toNat - 0x80)) 0x80 0xBF following rest with
      | .ok n => .ok n
      | .error (right, reason) => .error (right + 1, reason)
    else .error (0, .invalidContinuation)

/-- The first code point of some bytes and how many bytes it takes after the first, or how many
bytes are wrong and why. -/
def first (b : UInt8) (rest : Bytes) : Except (Nat × DecodeReason) (CodePoint × Nat) :=
  if b.toNat < 0x80 then .ok (.ofNat b.toNat, 0)
  else
    match lead? b.toNat with
    | none => .error (1, .invalidStart)
    | some lead =>
      match follow lead.bits lead.least lead.greatest lead.following rest with
      | .ok n => .ok (.ofNat n, lead.following)
      | .error (right, reason) => .error (right + 1, reason)

/-- The text of bytes that stand at a position of the whole. -/
def decodeFrom (position : Nat) (bytes : Bytes) : Except DecodeFault Text :=
  match bytes with
  | [] => .ok []
  | b :: rest =>
    match first b rest with
    | .ok (c, following) =>
      match decodeFrom (position + 1 + following) (rest.drop following) with
      | .ok t => .ok (c :: t)
      | .error fault => .error fault
    | .error (wrong, reason) => .error ⟨"utf-8", position, (b :: rest).take wrong, reason⟩
termination_by bytes.length
decreasing_by simp only [List.length_drop, List.length_cons]; omega

def decode (bytes : Bytes) : Except DecodeFault Text :=
  decodeFrom 0 bytes

/-- The bytes of `0xFEFF`, which may stand at the beginning of a file to mark its encoding. -/
def mark : Bytes := [0xEF, 0xBB, 0xBF]

/-- The text of bytes without the mark. Positions in faults count from behind the mark, and a
beginning of the mark alone is not yet text. -/
def decodeMarked (bytes : Bytes) : Except DecodeFault Text :=
  if bytes.length < mark.length ∧ bytes.isPrefixOf mark then .ok []
  else if mark.isPrefixOf bytes then decode (bytes.drop mark.length)
  else decode bytes

end Utf8

end TapeMachine
