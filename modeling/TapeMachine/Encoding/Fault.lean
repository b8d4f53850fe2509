import TapeMachine.Numeral

/-! Why bytes are no text in an encoding, and the message that says so. -/

namespace TapeMachine

abbrev Bytes := List UInt8

inductive DecodeReason where
  | invalidStart
  | invalidContinuation
  | unexpectedEnd
  | truncated
  | lowSurrogateFirst
  | highSurrogateAlone
  | notAscii
  deriving DecidableEq

/-- The first run of bytes that cannot be decoded, with the name of the encoding as messages give
it. -/
structure DecodeFault where
  encoding : String
  position : Nat
  bytes : Bytes
  reason : DecodeReason

namespace DecodeReason

def wording : DecodeReason → String
  | invalidStart => "invalid start byte"
  | invalidContinuation => "invalid continuation byte"
  | unexpectedEnd => "unexpected end of data"
  | truncated => "truncated data"
  | lowSurrogateFirst => "illegal encoding"
  | highSurrogateAlone => "illegal UTF-16 surrogate"
  | notAscii => "ordinal not in range(128)"

end DecodeReason

namespace DecodeFault

open Text (ofString)

/-- A single byte is shown with its value, and several with their first and last position. -/
def place (fault : DecodeFault) : Text :=
  match fault.bytes with
  | [b] =>
    ofString "byte 0x" ++ Numeral.hex 2 b.toNat ++ ofString " in position " ++ Numeral.ofNat fault.position
  | bytes =>
    ofString "bytes in position " ++ Numeral.ofNat fault.position ++ ofString "-" ++
      Numeral.ofNat (fault.position + bytes.length - 1)

def message (fault : DecodeFault) : Text :=
  ofString "'" ++ ofString fault.encoding ++ ofString "' codec can't decode " ++ fault.place ++
    ofString ": " ++ ofString fault.reason.wording

end DecodeFault

end TapeMachine
