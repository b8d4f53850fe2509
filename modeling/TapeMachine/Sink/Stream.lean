import TapeMachine.Encoding

/-! Streams as sinks. Each rendered text is followed by a newline. A stream with an encoding gets
escapes for everything that the encoding cannot hold, so writing to it never fails; a stream without
one gets the text as it is. -/

namespace TapeMachine

structure Stream where
  encoding : Option Encoding
  written : Text := []

namespace Stream

/-- The text as the stream can hold it. -/
def fit (stream : Stream) (t : Text) : Text :=
  match stream.encoding with
  | none => t
  | some e => e.escape t

def render (stream : Stream) (t : Text) : Stream :=
  { stream with written := stream.written ++ stream.fit t ++ [Text.newline] }

def bytes? (stream : Stream) : Option Bytes :=
  stream.encoding.bind (·.encode? stream.written)

end Stream

end TapeMachine
