import FramePath.Proofs.Pipeline.Run

/-!
# What a pipeline hands over

Whatever happened to a pipeline before, a frame that it renders reaches the consumer as the picture of its payload:
once, in the size of the output, and as a function of the format, the geometry and the payload alone.
-/

namespace FramePath

namespace Pipeline

/-- In every reachable state, a frame that is rendered holds the bytes that the agreed format needs, and the angle is
a turn. The consumer is handed exactly one picture and its answer is reported. The picture has the size of the output
and four bytes a pixel, and is the one that `Picture.ofFrame` makes of the format, the geometry as it was when the
frame came, and the payload. Changes of the geometry that come in meanwhile have no part in it. -/
theorem rendered_picture (limit : Nat) (consumer : Consumer) (acts : List Act)
    (meanwhile : List Geometry.Change) (frame : Frame) (acknowledged : Bool)
    (hrendered : (((initial limit consumer).run acts).feedAmid meanwhile frame).1 =
      .ok (.rendered acknowledged)) :
    let pipeline := (initial limit consumer).run acts
    let geometry := pipeline.geometry
    ∃ format turn, pipeline.format = some format ∧
      Turn.ofDegrees? geometry.angle = some turn ∧
      format.frameBytes geometry.source ≤ frame.payload.size ∧
      let picture := Picture.ofFrame format geometry.source geometry.output turn frame.payload
      picture.size = geometry.output ∧
        picture.pixels.size = geometry.output.area * packedPixelBytes ∧
        (acknowledged, (pipeline.feedAmid meanwhile frame).2.consumer) =
          pipeline.consumer.take picture := by
  have hready := ready_run limit consumer acts
  obtain ⟨format, turn, hformat, hturn, henough, htake⟩ :=
    (hready.feedAmid meanwhile frame).2 acknowledged hrendered
  exact ⟨format, turn, hformat, hturn, henough, rfl, Picture.size_ofFrame .., htake⟩

/-- A planar frame is shown turned by a right angle, another is too short and skipped, and the canvases are used
again. -/
def reuse : List Act :=
  [.negotiate ⟨PixelFormat.i420.code, ⟨2, 2⟩⟩, .change (.angle 90), .change (.width 1),
    .feed ⟨#[16, 81, 145, 235, 128, 240], ⟨2, 2⟩, .i420, 0⟩ [],
    .feed ⟨#[16, 81], ⟨2, 2⟩, .i420, 1⟩ []]

theorem rendered_picture_reuse :
    let pipeline := (initial Scratch.defaultLimit (.listener (fun _ => true) [])).run reuse
    let frame : Frame := ⟨#[90, 90, 90, 235, 128, 128, 7], ⟨9, 9⟩, .argb, 2⟩
    pipeline.tally = ⟨1, 1, 1⟩ ∧
      (pipeline.feedAmid [.angle 180] frame).1 = .ok (.rendered true) ∧
      ((pipeline.feedAmid [.angle 180] frame).2.consumer.received.map Picture.size) =
        [⟨1, 2⟩, ⟨1, 2⟩] ∧
      ∃ format turn, pipeline.format = some format ∧
        Turn.ofDegrees? pipeline.geometry.angle = some turn ∧
        format.frameBytes pipeline.geometry.source ≤ frame.payload.size ∧
        let picture := Picture.ofFrame format pipeline.geometry.source pipeline.geometry.output turn
          frame.payload
        picture.size = pipeline.geometry.output ∧
          picture.pixels.size = pipeline.geometry.output.area * packedPixelBytes ∧
          (true, (pipeline.feedAmid [.angle 180] frame).2.consumer) = pipeline.consumer.take picture :=
  ⟨by decide +kernel, rfl, by decide +kernel,
    rendered_picture Scratch.defaultLimit (.listener (fun _ => true) []) reuse [.angle 180]
      ⟨#[90, 90, 90, 235, 128, 128, 7], ⟨9, 9⟩, .argb, 2⟩ true rfl⟩

end Pipeline

end FramePath
