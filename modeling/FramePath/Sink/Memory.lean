import FramePath.Lifecycle
import FramePath.Pipeline

/-!
# The memory sink

A pipeline with a lifecycle. Frames are taken in every run state; leaving the states in which
frames flow gives the scratch memory back and ends a halt.
-/

namespace FramePath

namespace Sink

/-- What a memory sink is asked for when it is made; a zero side follows the source. -/
structure Request where
  size : Size
  angle : UInt32
  deriving DecidableEq, Repr

/-- Follow the source and do not turn. -/
def Request.default : Request := ⟨.zero, 0⟩

/-- A pipeline and the run state around it. -/
structure Memory where
  pipeline : Pipeline
  state : RunState

namespace Memory

/-- A new sink; the request is made as changes to the geometry. -/
def new (limit : Nat) (request : Request) (consumer : Consumer) : Memory :=
  let pipeline :=
    (Pipeline.initial limit consumer).change (.width request.size.width)
      |>.change (.height request.size.height)
      |>.change (.angle request.angle)
  ⟨pipeline, .null⟩

/-- Agree on a stream. -/
def negotiate (description : StreamDescription) (sink : Memory) : Except FrameError Memory := do
  let pipeline ← sink.pipeline.negotiate description
  pure { sink with pipeline }

/-- Take one frame through the pipeline, whatever the run state. -/
def render (frame : Frame) (sink : Memory) : Except FrameError Outcome × Memory :=
  let (outcome, pipeline) := sink.pipeline.feed frame
  (outcome, { sink with pipeline })

/-- Change the geometry. -/
def change (change : Geometry.Change) (sink : Memory) : Memory :=
  { sink with pipeline := sink.pipeline.change change }

/-- Put another consumer in place. -/
def attach (consumer : Consumer) (sink : Memory) : Memory :=
  { sink with pipeline := sink.pipeline.attach consumer }

/-- Move along the lifecycle. -/
def move (transition : Transition) (sink : Memory) : Memory :=
  { pipeline := if transition.isTeardown then sink.pipeline.restart else sink.pipeline
    state := transition.target }

end Memory

end Sink

end FramePath
