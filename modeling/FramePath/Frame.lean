import FramePath.Bytes
import FramePath.PixelFormat

/-!
# Frames

A frame is a payload with a header that says what the payload should be. The payload need not match
the header; who uses a frame checks that. `StreamDescription` is what the two ends of a stream agree on
before frames flow: the size, and the format by its code.
-/

namespace FramePath

/-- One picture of a stream. -/
structure Frame where
  payload : Bytes
  size : Size
  format : PixelFormat
  timestamp : Nat
  deriving DecidableEq, Repr, Inhabited

namespace Frame

/-- Bytes that the header says the payload should hold. -/
def expectedBytes (frame : Frame) : Nat := frame.format.frameBytes frame.size

/-- The header in words, with the payload's length in place of the payload. -/
def summary (frame : Frame) : String :=
  "VideoFrame \x7b width: " ++ toString frame.size.width.toNat ++
    ", height: " ++ toString frame.size.height.toNat ++
    ", format: " ++ frame.format.name ++
    ", timestamp: " ++ toString frame.timestamp ++
    ", size: " ++ toString frame.payload.size ++ " \x7d"

end Frame

/-- The size and format code that a stream announces. -/
structure StreamDescription where
  code : UInt32
  size : Size
  deriving DecidableEq, Repr, Inhabited

/-- The format a description names, if its code is known. -/
def StreamDescription.format? (description : StreamDescription) : Option PixelFormat :=
  PixelFormat.ofCode? description.code

end FramePath
