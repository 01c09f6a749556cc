import FramePath.Consumer
import FramePath.Frame
import FramePath.Planes
import FramePath.Resample
import FramePath.Scratch
import FramePath.Turn

/-!
# The transform pipeline

A frame is converted to packed pixels, turned, resized and handed to a consumer. It is first admitted,
which fixes the format and a snapshot of the geometry as its `Job`, and then performed by that
snapshot; a change of the geometry may come in between and concerns the next frame. A frame that a
stage refuses is skipped. A fatal error, such as a refused request for scratch memory, halts the
pipeline until it is restarted.
-/

namespace FramePath

/-- What became of a frame. -/
inductive Outcome where
  | rendered (acknowledged : Bool)
  | skipped
  deriving DecidableEq, Repr

/-- Counts of frames. -/
structure FrameTally where
  processed : Nat
  skipped : Nat
  acknowledged : Nat
  deriving DecidableEq, Repr

namespace FrameTally

/-- Nothing counted yet. -/
def zero : FrameTally := ⟨0, 0, 0⟩

/-- One more picture handed over. -/
def countRendered (tally : FrameTally) (acknowledged : Bool) : FrameTally :=
  { tally with
    processed := tally.processed + 1
    acknowledged := tally.acknowledged + acknowledged.toNat }

/-- One more frame skipped. -/
def countSkipped (tally : FrameTally) : FrameTally :=
  { tally with skipped := tally.skipped + 1 }

end FrameTally

/-- An admitted frame: its payload, and the format and geometry it is to be read by. -/
structure Job where
  format : PixelFormat
  geometry : Geometry
  payload : Bytes

/-- By an angle that is a turn, the turned source is the size that the turn gives. -/
theorem Geometry.turnedSource_of_turn {geometry : Geometry} {turn : Turn}
    (angle : Turn.ofDegrees? geometry.angle = some turn) :
    geometry.turnedSource = turn.turnedSize geometry.source := by
  unfold Turn.ofDegrees? at angle
  split at angle
  all_goals rename_i exact
  all_goals cases angle
  all_goals simp [Geometry.turnedSource, Turn.turnedSize, Turn.swapsSides, exact]

namespace Job

/-- Refuse a source without pixels or a payload that is shorter than the format needs. -/
def check (job : Job) : Except FrameError Unit :=
  let needed := job.format.frameBytes job.geometry.source
  if job.geometry.source.isEmpty then .error (.invalidGeometry job.geometry.source)
  else if job.payload.size < needed then .error (.bufferTooSmall needed job.payload.size)
  else .ok ()

/-- The packed picture of the frame. A packed payload is used as it is. -/
def convert (job : Job) (canvases : Canvases) : Except FrameError (Bytes × Canvases) :=
  if job.format.isPlanar then do
    let converted ←
      Planes.toRgba job.payload job.format job.geometry.source canvases.converted
    pure (converted, { canvases with converted })
  else .ok (job.payload, canvases)

/-- The turned picture and its size. Without a canvas for it, the picture is not turned. -/
def turn (job : Job) (pixels : Bytes) (canvases : Canvases) :
    Except FrameError (Bytes × Size × Canvases) :=
  match canvases.rotated with
  | none => .ok (pixels, job.geometry.source, canvases)
  | some canvas => do
      let (_, rotated) ←
        Turn.apply pixels canvas job.geometry.source packedPixelBytes job.geometry.angle
      pure (rotated, job.geometry.turnedSource, { canvases with rotated := some rotated })

/-- The picture in its output size. -/
def resize (job : Job) (pixels : Bytes) (size : Size) (canvases : Canvases) :
    Except FrameError Canvases := do
  let resized ←
    Resample.apply pixels size canvases.resized job.geometry.output packedPixelBytes
  pure { canvases with resized }

/-- Take a frame through all stages. The canvases keep what the stages before a refusal did. -/
def develop (job : Job) (canvases : Canvases) : Except FrameError Picture × Canvases :=
  match job.check with
  | .error cause => (.error cause, canvases)
  | .ok () =>
    match job.convert canvases with
    | .error cause => (.error cause, canvases)
    | .ok (pixels, canvases) =>
      match job.turn pixels canvases with
      | .error cause => (.error cause, canvases)
      | .ok (pixels, size, canvases) =>
        match job.resize pixels size canvases with
        | .error cause => (.error cause, canvases)
        | .ok canvases => (.ok ⟨job.geometry.output, canvases.resized⟩, canvases)

end Job

/-- The state of a pipeline. -/
structure Pipeline where
  format : Option PixelFormat
  geometry : Geometry
  scratch : Scratch
  consumer : Consumer
  halted : Bool
  tally : FrameTally

namespace Pipeline

/-- A pipeline that has not negotiated a format yet, on a host with this limit for scratch memory. -/
def initial (limit : Nat) (consumer : Consumer) : Pipeline :=
  ⟨none, .initial, .initial limit, consumer, false, .zero⟩

/-- Agree on a stream, if its format is known and its size has pixels. -/
def negotiate (description : StreamDescription) (pipeline : Pipeline) :
    Except FrameError Pipeline :=
  match description.format? with
  | none => .error (.unsupportedFormat description.code)
  | some format =>
    if description.size.isEmpty then .error (.invalidGeometry description.size)
    else
      .ok { pipeline with
        format := some format
        geometry := pipeline.geometry.setSource description.size }

/-- Change the geometry. -/
def change (change : Geometry.Change) (pipeline : Pipeline) : Pipeline :=
  { pipeline with geometry := pipeline.geometry.apply change }

/-- Put another consumer in place. -/
def attach (consumer : Consumer) (pipeline : Pipeline) : Pipeline :=
  { pipeline with consumer }

/-- Give the scratch memory back and go on after a halt. -/
def restart (pipeline : Pipeline) : Pipeline :=
  { pipeline with
    scratch := pipeline.scratch.release
    halted := false
    geometry := pipeline.geometry.markDirty }

/-- Admit a frame: take the snapshot it will be performed by, and count the changes in it as taken
up. -/
def accept (frame : Frame) (pipeline : Pipeline) : Except FrameError (Job × Pipeline) :=
  if pipeline.halted then .error .halted
  else
    match pipeline.format with
    | none => .error .notNegotiated
    | some format =>
        .ok (⟨format, pipeline.geometry, frame.payload⟩,
          { pipeline with geometry := pipeline.geometry.settled })

/-- Hand a finished picture to the consumer and count it. -/
def present (picture : Picture) (pipeline : Pipeline) : Outcome × Pipeline :=
  let (acknowledged, consumer) := pipeline.consumer.take picture
  (.rendered acknowledged,
    { pipeline with consumer, tally := pipeline.tally.countRendered acknowledged })

/-- Perform an admitted frame on the canvases its snapshot asks for. -/
def perform (job : Job) (pipeline : Pipeline) : Except FrameError Outcome × Pipeline :=
  match pipeline.scratch.obtain job.geometry with
  | (.error cause, scratch) => (.error cause, { pipeline with scratch, halted := true })
  | (.ok canvases, scratch) =>
    let (developed, canvases) := job.develop canvases
    let pipeline := { pipeline with scratch := scratch.keep canvases }
    match developed with
    | .error cause =>
        if cause.isFatal then (.error cause, { pipeline with halted := true })
        else (.ok .skipped, { pipeline with tally := pipeline.tally.countSkipped })
    | .ok picture =>
        let (outcome, pipeline) := pipeline.present picture
        (.ok outcome, pipeline)

/-- Take one frame through the pipeline. -/
def feed (frame : Frame) (pipeline : Pipeline) : Except FrameError Outcome × Pipeline :=
  match pipeline.accept frame with
  | .error cause => (.error cause, pipeline)
  | .ok (job, pipeline) => pipeline.perform job

end Pipeline

end FramePath
