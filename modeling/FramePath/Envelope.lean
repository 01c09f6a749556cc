import FramePath.Frame

/-!
# Envelopes

What a producer sends to the consumer of a mailbox: a frame to show, with the epoch of the binding it
was sent under, or a change of visibility. A frame is shared between its submitter and all who
handle it, so it has an identity by which references to it are counted.
-/

namespace FramePath

/-- A frame with an identity of its own; equal frames with different marks are different frames. -/
structure SharedFrame where
  mark : Nat
  frame : Frame
  deriving DecidableEq, Repr

/-- One message of a mailbox. -/
inductive Envelope where
  | frame (frame : SharedFrame) (epoch : Nat)
  | visibility (visible : Bool)
  deriving DecidableEq, Repr

namespace Envelope

/-- The frame inside, if there is one. -/
def frame? : Envelope → Option SharedFrame
  | .frame shared _ => some shared
  | .visibility _ => none

/-- The frames inside: one or none. -/
def frames (envelope : Envelope) : List SharedFrame := envelope.frame?.toList

/-- Whether there is a frame inside. -/
def isFrame (envelope : Envelope) : Bool := envelope.frame?.isSome

end Envelope

end FramePath
