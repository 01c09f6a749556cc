import FramePath.Sink.Memory

/-!
# The numeric interface

A memory sink behind calls that take and give plain numbers, for a host that embeds it. A handle or a
buffer may be missing; a call without one that it needs does nothing and says so by its number.
The handle remembers the stream description it last accepted, because pushed payloads come without
a header.
-/

namespace FramePath

namespace Embedding

/-- Version of the interface. -/
def version : String := "0.1.0"

/-- A push whose frame went to the consumer. -/
def renderedStatus : Int := 1

/-- A push whose frame was skipped. -/
def skippedStatus : Int := 0

/-- A push that was refused. -/
def errorStatus : Int := -1

/-- One for done, zero for refused. -/
def doneStatus (done : Bool) : Int := if done then 1 else 0

/-- A sink in a host's hands. -/
structure Handle where
  sink : Sink.Memory
  remembered : Option StreamDescription

/-- Numbers that a host can ask for. -/
structure Report where
  processed : Nat
  skipped : Nat
  acknowledged : Nat
  reallocations : Nat
  scratchBytes : Nat
  halted : Bool
  deriving DecidableEq, Repr

namespace Handle

/-- A new sink; without a request it follows the source. -/
def create (limit : Nat) (request : Option Sink.Request) (consumer : Consumer) : Handle :=
  ⟨.new limit (request.getD .default) consumer, none⟩

/-- The numbers as they are now. -/
def report (handle : Handle) : Report :=
  let pipeline := handle.sink.pipeline
  { processed := pipeline.tally.processed
    skipped := pipeline.tally.skipped
    acknowledged := pipeline.tally.acknowledged
    reallocations := pipeline.scratch.reallocations
    scratchBytes :=
      pipeline.scratch.convertedBytes + pipeline.scratch.rotatedBytes +
        pipeline.scratch.resizedBytes
    halted := pipeline.halted }

/-- The listener in place changes its mind. -/
def withAnswer (answer : List Picture → Bool) (handle : Handle) : Handle :=
  { handle with
    sink := handle.sink.attach (handle.sink.pipeline.consumer.withAnswer answer) }

end Handle

/-- Put another consumer in place. -/
def attach (consumer : Consumer) (handle : Option Handle) : Option Handle :=
  handle.map fun handle => { handle with sink := handle.sink.attach consumer }

/-- Request an output size. -/
def setOutputSize (size : Size) (handle : Option Handle) : Option Handle :=
  handle.map fun handle =>
    { handle with sink := (handle.sink.change (.width size.width)).change (.height size.height) }

/-- Request an angle. -/
def setAngle (degrees : UInt32) (handle : Option Handle) : Option Handle :=
  handle.map fun handle => { handle with sink := handle.sink.change (.angle degrees) }

/-- Agree on a stream; what is refused is not remembered. -/
def negotiate (description : StreamDescription) (handle : Option Handle) :
    Int × Option Handle :=
  match handle with
  | none => (doneStatus false, none)
  | some handle =>
    match handle.sink.negotiate description with
    | .error _ => (doneStatus false, some handle)
    | .ok sink => (doneStatus true, some ⟨sink, some description⟩)

/-- Move along the lifecycle by the transition's number. -/
def move (number : UInt32) (handle : Option Handle) : Int × Option Handle :=
  match handle with
  | none => (doneStatus false, none)
  | some handle =>
    match Transition.ofNumber? number with
    | none => (doneStatus false, some handle)
    | some transition =>
        (doneStatus true, some { handle with sink := handle.sink.move transition })

/-- Number of a rendering's outcome. -/
def outcomeStatus : Except FrameError Outcome → Int
  | .ok (.rendered _) => renderedStatus
  | .ok .skipped => skippedStatus
  | .error _ => errorStatus

/-- Push one payload in the remembered format. -/
def push (payload : Option Bytes) (timestamp : Nat) (handle : Option Handle) :
    Int × Option Handle :=
  match handle, payload with
  | some handle, some payload =>
    match handle.remembered.bind fun description =>
        description.format?.map fun format => (⟨payload, description.size, format, timestamp⟩ : Frame) with
    | none => (errorStatus, some handle)
    | some frame =>
        let (outcome, sink) := handle.sink.render frame
        (outcomeStatus outcome, some { handle with sink })
  | handle, _ => (errorStatus, handle)

/-- Ask for the numbers. They are given if there is a handle and a place to put them. -/
def report (hasPlace : Bool) (handle : Option Handle) : Int × Option Report :=
  match handle, hasPlace with
  | some handle, true => (doneStatus true, some handle.report)
  | _, _ => (doneStatus false, none)

/-- Convert a planar picture into a host's buffer. -/
def convert (input : Option Bytes) (code : UInt32) (size : Size) (output : Option Bytes) :
    Int × Option Bytes :=
  match input, output, PixelFormat.ofCode? code with
  | some input, some output, some format =>
    match Planes.toRgba input format size output with
    | .ok painted => (doneStatus true, some painted)
    | .error _ => (doneStatus false, some output)
  | _, output, _ => (doneStatus false, output)

/-- Turn a packed picture. Only as many bytes are looked at as both buffers have. -/
def turn (input output : Option Bytes) (size : Size) (degrees : UInt32) : Int × Option Bytes :=
  match input, output with
  | some input, some output =>
    let length := min input.size output.size
    match Turn.apply (input.extract 0 length) (output.extract 0 length) size packedPixelBytes
        degrees with
    | .ok (_, turned) => (doneStatus true, some (output.overlay turned length))
    | .error _ => (doneStatus false, some output)
  | _, output => (doneStatus false, output)

/-- Resample a packed picture. The buffers are taken to be as long as the sizes say. -/
def resample (input : Option Bytes) (source : Size) (output : Option Bytes)
    (destination : Size) : Int × Option Bytes :=
  match input, output with
  | some input, some output =>
    match Resample.apply input source output destination packedPixelBytes with
    | .ok resampled => (doneStatus true, some resampled)
    | .error _ => (doneStatus false, some output)
  | _, output => (doneStatus false, output)

end Embedding

end FramePath
