import FramePath.Size

/-!
# What can go wrong with a frame

One constructor for each cause, with what the message needs to name it. A fatal error stops the
pipeline; every other one concerns a single frame or request.
-/

namespace FramePath

/-- The three scratch canvases of the pipeline, in the order in which they are requested. -/
inductive CanvasName where
  | converted
  | rotated
  | resized
  deriving DecidableEq, Repr

/-- The canvas's name in messages. -/
def CanvasName.label : CanvasName → String
  | .converted => "converted"
  | .rotated => "rotated"
  | .resized => "resized"

/-- Why a frame, a stream description or a request for scratch memory was refused. -/
inductive FrameError where
  | allocationFailed (canvas : CanvasName) (bytes : Nat)
  | invalidGeometry (size : Size)
  | bufferTooSmall (expected actual : Nat)
  | unsupportedRotation (degrees : UInt32)
  | notNegotiated
  | unsupportedFormat (code : UInt32)
  | halted
  deriving DecidableEq, Repr

namespace FrameError

/-- The error in words. -/
def message : FrameError → String
  | allocationFailed canvas bytes =>
      "failed to allocate " ++ toString bytes ++ " byte " ++ canvas.label ++ " buffer"
  | invalidGeometry size =>
      "invalid geometry " ++ toString size.width.toNat ++ "x" ++ toString size.height.toNat
  | bufferTooSmall expected actual =>
      "buffer too small: need " ++ toString expected ++ " bytes, have " ++ toString actual
  | unsupportedRotation degrees => "unsupported rotation angle " ++ toString degrees.toNat
  | notNegotiated => "format not negotiated"
  | unsupportedFormat code => "unsupported pixel format " ++ toString code.toNat
  | halted => "pipeline halted after a fatal error"

/-- The errors that stop the pipeline rather than one frame. -/
def isFatal : FrameError → Bool
  | allocationFailed .. | halted => true
  | _ => false

end FrameError

end FramePath
